import DosWeb.Conclude.Issuance
import DosWeb.Lifecycle.Evidence

/-!
The conclude stage: the dispositions select the pairs of entry and growth, the flows of a
pair are grouped, and each group yields one certificate and one finding.
-/

namespace DosWeb.Production

open Entries (EntryFact FrameworkCoverage)
open Flows (FlowProof VerifiedFlow verifyFlow dangling)
open Growth (VerifiedGrowthResult)
open Lifecycle Conclude

abbrev Pair := String × String

/-- The last of the rows under a key: a later row takes the place of an earlier one. -/
def latest {α κ : Type} [DecidableEq κ] (key : α → κ) (rows : List α) (wanted : κ) : Option α :=
  rows.reverse.find? fun row => key row = wanted

inductive DispositionStatus where
  | formalEligible
  | gapEligible
  | rejected
  | inventoryUnresolved
  deriving DecidableEq

/-- What the conclude stage reads of a disposition; the rest of its record selects nothing. -/
structure Disposition where
  growthId : String
  status : DispositionStatus
  linkIds : List String

structure EntryLink where
  linkId : String
  growthId : String
  entryId : String

def EntryLink.pair (link : EntryLink) : Pair := (link.entryId, link.growthId)

/-- The decisions that the lifecycle stage published for a path. -/
structure LifecycleResult where
  pathId : String
  decisions : LifecycleDecisions

/-- The upstream records of the conclude stage, as they are read back. -/
structure ConcludeInputs where
  entries : List EntryFact
  growth : List VerifiedGrowthResult
  flowProofs : List FlowProof
  lifecycle : List LifecycleResult
  coverage : List LifecycleCoverage
  frameworkCoverage : List FrameworkCoverage
  reachability : List (String × ExternalDecision)
  repeatability : List (Pair × ExternalDecision)
  amplification : List (Pair × ExternalDecision)
  links : List EntryLink
  dispositions : List Disposition

def flowPair (flow : VerifiedFlow) : Pair := (flow.entryId, flow.growthId)

def upstreamInvalid (message : String) : Raised :=
  .analyzer ⟨"ARTIFACT_UPSTREAM_INVALID", message, []⟩

def upstreamHashMismatch (message : String) : Raised :=
  .analyzer ⟨"ARTIFACT_UPSTREAM_HASH_MISMATCH", message, []⟩

def DispositionStatus.concludes (status : DispositionStatus) : Bool :=
  status = .formalEligible || status = .gapEligible

section

variable (links : List EntryLink) (flowPairs : List Pair)

/-- The link of an identifier, between the disposition's growth and a pair that has a flow. -/
def linkedPair (growthId linkId : String) : Checked Pair :=
  match links.find? fun link => link.linkId = linkId with
  | none => .error (.analyzer ⟨"ANALYSIS_DANGLING_FACT_REFERENCE",
      "Candidate disposition references a missing Entry link.", []⟩)
  | some link =>
    if link.growthId = growthId ∧ (link.entryId, growthId) ∈ flowPairs then
      .ok (link.entryId, growthId)
    else .error (upstreamHashMismatch
      "Candidate-relevant Growth is missing its required flow artifact.")

def linkedPairs (growthId : String) : List String → Checked (List Pair)
  | [] => .ok []
  | linkId :: linkIds => do
      let pair ← linkedPair links flowPairs growthId linkId
      let pairs ← linkedPairs growthId linkIds
      return pair :: pairs

abbrev Statuses := List (Pair × DispositionStatus)

def recordStatus (statuses : Statuses) (status : DispositionStatus) (pair : Pair) :
    Checked Statuses :=
  match statuses.lookup pair with
  | none => .ok (statuses ++ [(pair, status)])
  | some previous =>
    if previous = status then .ok statuses
    else .error (upstreamInvalid "Candidate conclusion eligibility is ambiguous.")

def recordStatuses (status : DispositionStatus) : List Pair → Statuses → Checked Statuses
  | [], statuses => .ok statuses
  | pair :: pairs, statuses => do
      let statuses ← recordStatus statuses status pair
      recordStatuses status pairs statuses

def resolveDisposition (disposition : Disposition) (statuses : Statuses) : Checked Statuses :=
  if disposition.status.concludes then do
    require (disposition.linkIds ≠ []) (.analyzer ⟨"ANALYSIS_DANGLING_FACT_REFERENCE",
      "Candidate disposition references a missing Entry link.", []⟩)
    let pairs ← linkedPairs links flowPairs disposition.growthId disposition.linkIds
    recordStatuses disposition.status pairs statuses
  else .ok statuses

def resolveDispositions : List Disposition → Statuses → Checked Statuses
  | [], statuses => .ok statuses
  | disposition :: dispositions, statuses => do
      let statuses ← resolveDisposition links flowPairs disposition statuses
      resolveDispositions dispositions statuses

/-- The pairs that may publish a conclusion, each with the status of its dispositions. -/
def eligibleConclusionPairs (dispositions : List Disposition) : Checked Statuses := do
  require ((links.map EntryLink.linkId).Nodup)
    (upstreamInvalid "Candidate Entry links are duplicated or malformed.")
  resolveDispositions links flowPairs dispositions []

end

def verifyFlows (entries : List (String × EntryFact))
    (growth : List (String × VerifiedGrowthResult)) : List FlowProof → Checked (List VerifiedFlow)
  | [] => .ok []
  | proof :: proofs => do
      let flow ← verifyFlow proof entries growth
      let flows ← verifyFlows entries growth proofs
      return flow :: flows

variable (inputs : ConcludeInputs)

def ConcludeInputs.entryMap : List (String × EntryFact) :=
  inputs.entries.map fun entry => (entry.entryId, entry)

def ConcludeInputs.growthMap : List (String × VerifiedGrowthResult) :=
  inputs.growth.map fun growth => (growth.growthId, growth)

def lifecycleOf (pathId : String) : Option LifecycleResult :=
  latest LifecycleResult.pathId inputs.lifecycle pathId

def coverageKey (coverage : LifecycleCoverage) : String × String × String × Family :=
  (coverage.entryId, coverage.growthId, coverage.pathId, coverage.family)

/-- The status under which a path's family is covered. -/
def coverageOf (flow : VerifiedFlow) (family : Family) : Option Coverage :=
  (latest coverageKey inputs.coverage (flow.entryId, flow.growthId, flow.pathId, family)).map
    LifecycleCoverage.status

/-- A flow of an eligible pair comes with its lifecycle result and its coverage. -/
def checkLifecycle (flow : VerifiedFlow) : Checked Unit := do
  require (lifecycleOf inputs flow.pathId).isSome
    (upstreamHashMismatch "Lifecycle result is missing a flow path.")
  require (families.all fun family => (coverageOf inputs flow family).isSome)
    (upstreamHashMismatch "Lifecycle family coverage is missing for a relevant flow.")

def checkLifecycles (eligible : Statuses) : List VerifiedFlow → Checked Unit
  | [] => .ok ()
  | flow :: flows => do
      if (eligible.lookup (flowPair flow)).isSome then checkLifecycle inputs flow
      checkLifecycles eligible flows

def groupOf (flows : List VerifiedFlow) (pair : Pair) : List VerifiedFlow :=
  (flows.filter fun flow => flowPair flow = pair).insertionSort
    fun left right => left.pathId ≤ right.pathId

def pairsInOrder (eligible : Statuses) (flows : List VerifiedFlow) : List Pair :=
  (((flows.map flowPair).filter fun pair => (eligible.lookup pair).isSome).dedup).insertionSort
    fun left right => left.1 < right.1 ∨ left.1 = right.1 ∧ left.2 ≤ right.2

def externalFor (pair : Pair) : ExternalDecisions where
  reachability := (latest Prod.fst inputs.reachability pair.1).map Prod.snd
  repeatability := (latest Prod.fst inputs.repeatability pair).map Prod.snd
  amplification := (latest Prod.fst inputs.amplification pair).map Prod.snd

abbrev PathEvaluations := VerifiedFlow × AssertionEvaluation × AssertionEvaluation

def evaluationsByPath (growth : VerifiedGrowthResult) (decisions : LifecycleDecisions)
    (external : ExternalDecisions) : List VerifiedFlow → Checked (List PathEvaluations)
  | [] => .ok []
  | flow :: flows => do
      let assertion1 ← evaluateAssertion1 growth flow decisions.guard decisions.bound
        external.amplification external.reachability
      let assertion2 ← evaluateAssertion2 growth flow decisions.bound decisions.release
        external.reachability external.repeatability
      let evaluations ← evaluationsByPath growth decisions external flows
      return (flow, assertion1, assertion2) :: evaluations

def pathAssertions (evaluations : List PathEvaluations) : List AssertionEvaluation :=
  evaluations.flatMap fun evaluation => [evaluation.2.1, evaluation.2.2]

/-- The families of an assertion are covered on a path, or the assertion does not apply. -/
def lifecycleComplete (flow : VerifiedFlow) (assertion : AssertionEvaluation)
    (needed : List Family) : Bool := assertion.status = .notApplicable ||
    needed.all fun family => coverageOf inputs flow family = some .complete

def proofGate (status : DispositionStatus) (coverage : CandidateCoverage)
    (growth : VerifiedGrowthResult) (external : ExternalDecisions) (flows : List VerifiedFlow)
    (evaluations : List PathEvaluations) : VerdictProofGate where
  entryComplete := coverage.status = .complete
  ordinaryReachability := decisionStatus external.reachability = some "ordinary_attacker_reachable"
  growthVerified := growth.status = .verified
  flowProven := flows ≠ [] && flows.all VerifiedFlow.satisfiesPremise
  assertion1LifecycleComplete := evaluations.all fun evaluation =>
    lifecycleComplete inputs evaluation.1 evaluation.2.1 [.guard, .bound]
  assertion2LifecycleComplete := evaluations.all fun evaluation =>
    lifecycleComplete inputs evaluation.1 evaluation.2.2 [.bound, .release]
  candidateRelevantGapFree := status = .formalEligible

def frameworkItem (entry : EntryFact) : FrameworkCoverage :=
  (latest FrameworkCoverage.framework inputs.frameworkCoverage entry.framework).getD
    (FrameworkCoverage.uncovered entry.framework)

abbrev Conclusion := LifecycleCertificate × StaticFinding

/-- The conclusion over the flows of one pair, all under the decisions of the first path. -/
def concludeGroup (entry : EntryFact) (growth : VerifiedGrowthResult)
    (status : DispositionStatus) (ordered : List VerifiedFlow) (decisions : LifecycleDecisions) :
    Checked Conclusion := do
  let external := externalFor inputs (entry.entryId, growth.growthId)
  let evaluations ← evaluationsByPath growth decisions external ordered
  let assertions := pathAssertions evaluations
  let coverage ← CandidateCoverage.fromFramework (frameworkItem inputs entry)
    (some entry.registrationPatternId) (some entry.entryId) (some growth.growthId) none
  let gate := proofGate inputs status coverage growth external ordered evaluations
  let derived ← deriveVerdict assertions coverage
  let certificate ← buildLifecycleCertificate entry growth ordered decisions assertions coverage
    (applyPositiveProofGate derived gate) external (some gate)
  return (certificate, StaticFinding.fromCertificate certificate)

/-- The decisions of a pair: those of its first path, which the other paths must share. -/
def sharedDecisions (pathIds : List String) : Checked LifecycleDecisions :=
  match pathIds.filterMap (lifecycleOf inputs) with
  | [] => .error (upstreamHashMismatch "Lifecycle result is missing a flow path.")
  | first :: others =>
    if ∀ other ∈ others, other.decisions = first.decisions then .ok first.decisions
    else .error (upstreamInvalid "Lifecycle decisions disagree across proven paths.")

def concludePair (eligible : Statuses) (flows : List VerifiedFlow) (pair : Pair) :
    Checked Conclusion :=
  match inputs.entryMap.lookup pair.1, inputs.growthMap.lookup pair.2, eligible.lookup pair with
  | some entry, some growth, some status => do
      let ordered := groupOf flows pair
      let decisions ← sharedDecisions inputs (ordered.map VerifiedFlow.pathId)
      concludeGroup inputs entry growth status ordered decisions
  | none, _, _ => .error (dangling "entry" pair.1)
  | _, _, _ => .error (dangling "growth" pair.2)

def concludePairs (eligible : Statuses) (flows : List VerifiedFlow) :
    List Pair → Checked (List Conclusion)
  | [] => .ok []
  | pair :: pairs => do
      let conclusion ← concludePair inputs eligible flows pair
      let conclusions ← concludePairs eligible flows pairs
      return conclusion :: conclusions

/-- The certificates and the findings of the conclude stage; its finding families are derived
from them afterwards. -/
def conclude : Checked (List Conclusion) := do
  require ((inputs.entries.map EntryFact.entryId).Nodup) (.analyzer
    ⟨"ARTIFACT_SCHEMA_MISMATCH", "Entry artifact contains duplicate identifiers.", []⟩)
  require ((inputs.growth.map VerifiedGrowthResult.growthId).Nodup)
    (upstreamInvalid "Verified Growth records contain duplicate Growth ownership.")
  let flows ← verifyFlows inputs.entryMap inputs.growthMap inputs.flowProofs
  let eligible ← eligibleConclusionPairs inputs.links (flows.map flowPair) inputs.dispositions
  checkLifecycles inputs eligible flows
  concludePairs inputs eligible flows (pairsInOrder eligible flows)

end DosWeb.Production
