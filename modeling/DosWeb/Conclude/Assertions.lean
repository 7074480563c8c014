import DosWeb.Lifecycle.Releases

namespace DosWeb.Lifecycle

/-- What a conclusion carries over from a decision of any family. -/
structure DecisionFacts where
  evidenceIds : List String
  candidateIds : List String
  unresolvedFacts : List String

def GuardDecision.facts (decision : GuardDecision) : DecisionFacts :=
  ⟨decision.evidenceIds, decision.candidateIds, decision.unresolvedFacts⟩

def BoundDecision.facts (decision : BoundDecision) : DecisionFacts :=
  ⟨decision.evidenceIds, decision.candidateIds, decision.unresolvedFacts⟩

def ReleaseDecision.facts (decision : ReleaseDecision) : DecisionFacts :=
  ⟨decision.evidenceIds, decision.candidateIds, decision.unresolvedFacts⟩

end DosWeb.Lifecycle

namespace DosWeb.Conclude

open Library.Gates Library.OrderedSet
open Flows (VerifiedFlow)
open Growth (GrowthCandidate VerifiedGrowthResult)
open Lifecycle

inductive AssertionName where
  | assertion1
  | assertion2
  deriving DecidableEq

inductive AssertionStatus where
  | matched
  | refuted
  | unknown
  | notApplicable
  deriving DecidableEq

def AssertionName.text : AssertionName → String
  | .assertion1 => "assertion_1"
  | .assertion2 => "assertion_2"

def AssertionStatus.text : AssertionStatus → String
  | .matched => "matched"
  | .refuted => "refuted"
  | .unknown => "unknown"
  | .notApplicable => "not_applicable"

structure AssertionEvaluation where
  assertion : AssertionName
  status : AssertionStatus
  reasonCodes : TextSet
  evidenceIds : TextSet
  unresolvedFacts : TextSet
  deriving DecidableEq

def assertionInvalid (message : String) : Raised :=
  .analyzer ⟨"ANALYSIS_ASSERTION_INVALID", message, []⟩

/-- The texts of a field, or what the evaluation's constructor raises for an empty one. -/
def assertionTexts (field : String) (values : List String) : Checked TextSet :=
  match TextSet.collect values with
  | some texts => .ok texts
  | none => .error (assertionInvalid (field ++ " is invalid."))

/-- What the evaluators read of a decision on reachability, repeatability or amplification. -/
structure ExternalDecision where
  status : Option String
  decisionId : Option String

def decisionStatus (decision : Option ExternalDecision) : Option String :=
  decision.bind ExternalDecision.status

def decisionIds (decision : Option ExternalDecision) : List String :=
  (decision.bind ExternalDecision.decisionId).toList.filter (· ≠ "")

def context (growth : VerifiedGrowthResult) (flow : VerifiedFlow) : Checked Unit :=
  if flow.growthId ≠ growth.growthId then
    .error (.analyzer ⟨"ANALYSIS_DANGLING_FACT_REFERENCE",
      "Assertion flow and Growth facts do not match.",
      [("growth_id", .str growth.growthId), ("flow_growth_id", .str flow.growthId)]⟩)
  else .ok ()

def ids (growth : VerifiedGrowthResult) (flow : VerifiedFlow) (decisions : List DecisionFacts) :
    List String :=
  [growth.verifiedGrowthId, growth.growthId, flow.verifiedFlowId, flow.pathId, flow.entryId] ++
    flow.evidenceIds ++
    decisions.flatMap fun decision => decision.evidenceIds ++ decision.candidateIds

def unresolved (growth : VerifiedGrowthResult) (flow : VerifiedFlow)
    (decisions : List DecisionFacts) : List String := flow.unresolvedFacts ++
    flagged (growth.status ≠ .verified) growth.status.text ++ growth.reasonCodes ++
    decisions.flatMap DecisionFacts.unresolvedFacts

/-- A status with the reasons and the unresolved facts given for it. -/
structure Finding where
  status : AssertionStatus
  reasons : List String
  unresolved : List String := []

def result (assertion : AssertionName) (finding : Finding) (growth : VerifiedGrowthResult)
    (flow : VerifiedFlow) (decisions : List DecisionFacts) : Checked AssertionEvaluation := do
  let reasonCodes ← assertionTexts "reason_codes" finding.reasons
  let evidenceIds ← assertionTexts "evidence_ids" (ids growth flow decisions)
  let unresolvedFacts ← assertionTexts "unresolved_facts" finding.unresolved
  return ⟨assertion, finding.status, reasonCodes, evidenceIds, unresolvedFacts⟩

section

variable (growth : VerifiedGrowthResult) (flow : VerifiedFlow)

/-- One request already demands an amount of the attacker's choice. -/
def directDemand : Bool :=
  growth.candidate.any fun candidate =>
    (candidate.kind = .inputMaterialization || candidate.kind = .directAllocation) &&
      flow.proof.attackerControl.target = .size

def containerOrWork : Bool :=
  growth.candidate.any fun candidate =>
    candidate.kind = .containerGrowth || candidate.kind = .asyncWorkGrowth

def assertion1Rules (guard : GuardDecision) (bound : BoundDecision)
    (amplification reachability : Option ExternalDecision) : List (Bool × Finding) :=
  let reach := decisionStatus reachability
  let amplified := containerOrWork growth && decisionStatus amplification = some "proven"
  let facts := unresolved growth flow [guard.facts, bound.facts]
  [(reach = some "not_entry_reachable",
      ⟨.notApplicable, ["A1_NOT_ORDINARY_ATTACKER_REACHABLE"], []⟩),
    (reach ≠ none && reach ≠ some "ordinary_attacker_reachable",
      ⟨.unknown, ["A1_REACHABILITY_UNKNOWN"], decisionIds reachability⟩),
    (!directDemand growth flow && !amplified && containerOrWork growth &&
        decisionStatus amplification = some "unknown",
      ⟨.unknown, ["A1_AMPLIFICATION_UNKNOWN"], decisionIds amplification⟩),
    (!directDemand growth flow && !amplified,
      ⟨.notApplicable, ["A1_SINGLE_OPERATION_NOT_AMPLIFYING"], []⟩),
    (growth.status ≠ .verified, ⟨.unknown, ["A1_GROWTH_NOT_VERIFIED"], facts⟩),
    (flow.status ≠ .verified,
      ⟨.unknown, ["A1_FLOW_NOT_PROVEN"], flow.unresolvedFacts ++ flow.reasonCodes⟩),
    (flow.unresolvedFacts ≠ [], ⟨.unknown, ["A1_FLOW_UNRESOLVED"], flow.unresolvedFacts⟩),
    (guard.status = .unknown || guard.unresolvedFacts ≠ [],
      ⟨.unknown, ["A1_GUARD_UNKNOWN"], facts⟩),
    (guard.status = .effective, ⟨.refuted, ["A1_EFFECTIVE_GUARD"], []⟩),
    (bound.status = .unknown || bound.unresolvedFacts ≠ [],
      ⟨.unknown, ["A1_BOUND_UNKNOWN"], facts⟩),
    (bound.status = .effective, ⟨.refuted, ["A1_EFFECTIVE_BOUND"], []⟩)]

def assertion1Finding (guard : GuardDecision) (bound : BoundDecision)
    (amplification reachability : Option ExternalDecision) : Finding :=
  firstRule (assertion1Rules growth flow guard bound amplification reachability)
    ⟨.matched, ["A1_FLOW_PROVEN", "A1_GROWTH_VERIFIED", "A1_NO_EFFECTIVE_GUARD",
      "A1_NO_EFFECTIVE_BOUND"], []⟩

/-- Only demands that outlive their request accumulate over requests. -/
def persistentDemand : Bool :=
  flow.proof.attackerControl.target = .key || flow.proof.attackerControl.target = .value ||
    flow.proof.attackerControl.target = .submissionCount

def assertion2Rules (bound : BoundDecision) (release : ReleaseDecision)
    (reachability repeatability : Option ExternalDecision) : List (Bool × Finding) :=
  let reach := decisionStatus reachability
  let repetition := decisionStatus repeatability
  let scope := growth.candidate.map GrowthCandidate.escapeScope
  let facts := unresolved growth flow [bound.facts, release.facts]
  [(reach = some "not_entry_reachable",
      ⟨.notApplicable, ["A2_NOT_ORDINARY_ATTACKER_REACHABLE"], []⟩),
    (reach ≠ none && reach ≠ some "ordinary_attacker_reachable",
      ⟨.unknown, ["A2_REACHABILITY_UNKNOWN"], decisionIds reachability⟩),
    (repetition = some "not_applicable", ⟨.notApplicable, ["A2_NOT_REPEATABLE"], []⟩),
    (repetition ≠ none && repetition ≠ some "proven",
      ⟨.unknown, ["A2_REPEATABILITY_UNKNOWN"], decisionIds repeatability⟩),
    (growth.status ≠ .verified, ⟨.unknown, ["A2_GROWTH_NOT_VERIFIED"], facts⟩),
    (flow.status ≠ .verified,
      ⟨.unknown, ["A2_FLOW_NOT_PROVEN"], flow.unresolvedFacts ++ flow.reasonCodes⟩),
    (flow.unresolvedFacts ≠ [], ⟨.unknown, ["A2_FLOW_UNRESOLVED"], flow.unresolvedFacts⟩),
    (!persistentDemand flow, ⟨.notApplicable, ["A2_NONPERSISTENT_DEMAND"], []⟩),
    (scope = none || scope = some .request, ⟨.notApplicable, ["A2_NONESCAPING_GROWTH"], []⟩),
    (scope = some .unknown, ⟨.unknown, ["A2_ESCAPE_SCOPE_UNKNOWN"], ["escape_scope"]⟩),
    (bound.status = .unknown || bound.unresolvedFacts ≠ [],
      ⟨.unknown, ["A2_BOUND_UNKNOWN"], facts⟩),
    (bound.status = .effective, ⟨.refuted, ["A2_EFFECTIVE_BOUND"], []⟩),
    (release.classification = .potentialAsync, ⟨.unknown, ["A2_POTENTIAL_ASYNC_RELEASE"], facts⟩),
    (release.status = .unknown || release.unresolvedFacts ≠ [] || release.classification = .unknown,
      ⟨.unknown, ["A2_RELEASE_UNKNOWN"], facts⟩),
    (release.status = .effective, ⟨.refuted, ["A2_EFFECTIVE_SYNCHRONOUS_RELEASE"], []⟩)]

def assertion2Finding (bound : BoundDecision) (release : ReleaseDecision)
    (reachability repeatability : Option ExternalDecision) : Finding :=
  firstRule (assertion2Rules growth flow bound release reachability repeatability)
    ⟨.matched, ["A2_FLOW_PROVEN", "A2_GROWTH_ESCAPES", "A2_NO_EFFECTIVE_BOUND",
      "A2_NO_EFFECTIVE_RELEASE"], []⟩

end

/-- Assertion 1: only externally reachable direct demand or amplification. -/
def evaluateAssertion1 (growth : VerifiedGrowthResult) (flow : VerifiedFlow)
    (guard : GuardDecision) (bound : BoundDecision)
    (amplification reachability : Option ExternalDecision) : Checked AssertionEvaluation := do
  context growth flow
  result .assertion1 (assertion1Finding growth flow guard bound amplification reachability)
    growth flow [guard.facts, bound.facts]

def evaluateAssertion2 (growth : VerifiedGrowthResult) (flow : VerifiedFlow)
    (bound : BoundDecision) (release : ReleaseDecision)
    (reachability repeatability : Option ExternalDecision) : Checked AssertionEvaluation := do
  context growth flow
  result .assertion2 (assertion2Finding growth flow bound release reachability repeatability)
    growth flow [bound.facts, release.facts]

theorem assertion_texts_ok (field : String) (values : List String) (texts : TextSet) :
    assertionTexts field values = .ok texts ↔ TextSet.collect values = some texts := by
  unfold assertionTexts
  cases TextSet.collect values <;> simp

variable (growth : VerifiedGrowthResult)

variable (flow : VerifiedFlow)

theorem context_ok (nothing : Unit) :
    context growth flow = .ok nothing ↔ flow.growthId = growth.growthId := by
  unfold context
  split <;> simp_all

/-- What an evaluation holds: the finding, and the evidence of everything it rests on. -/
structure Holds (assertion : AssertionName) (finding : Finding) (evidence : List String)
    (evaluation : AssertionEvaluation) : Prop where
  assertion : evaluation.assertion = assertion
  status : evaluation.status = finding.status
  reasonCodes : TextSet.collect finding.reasons = some evaluation.reasonCodes
  evidenceIds : TextSet.collect evidence = some evaluation.evidenceIds
  unresolvedFacts : TextSet.collect finding.unresolved = some evaluation.unresolvedFacts

theorem result_ok (assertion : AssertionName) (finding : Finding)
    (growth : VerifiedGrowthResult) (flow : VerifiedFlow) (decisions : List DecisionFacts)
    (evaluation : AssertionEvaluation) :
    result assertion finding growth flow decisions = .ok evaluation ↔
      Holds assertion finding (ids growth flow decisions) evaluation := by
  unfold result
  simp only [bind_ok, assertion_texts_ok, pure_ok]
  constructor
  · rintro ⟨reasonCodes, reasons, evidenceIds, evidence, unresolvedFacts, facts, rfl⟩
    exact ⟨rfl, rfl, reasons, evidence, facts⟩
  · intro holds
    refine ⟨_, holds.reasonCodes, _, holds.evidenceIds, _, holds.unresolvedFacts, ?_⟩
    rw [← holds.assertion, ← holds.status]

variable (guard : GuardDecision) (bound : BoundDecision)
  (amplification reachability : Option ExternalDecision)

theorem evaluate_assertion_1_ok (evaluation : AssertionEvaluation) :
    evaluateAssertion1 growth flow guard bound amplification reachability = .ok evaluation ↔
      flow.growthId = growth.growthId ∧
        Holds .assertion1 (assertion1Finding growth flow guard bound amplification reachability)
          (ids growth flow [guard.facts, bound.facts]) evaluation := by
  unfold evaluateAssertion1
  rw [bind_ok]
  simp only [context_ok, result_ok]
  exact ⟨fun ⟨_, same, holds⟩ => ⟨same, holds⟩, fun ⟨same, holds⟩ => ⟨(), same, holds⟩⟩

variable (bound : BoundDecision) (release : ReleaseDecision)
  (reachability repeatability : Option ExternalDecision)

theorem evaluate_assertion_2_ok (evaluation : AssertionEvaluation) :
    evaluateAssertion2 growth flow bound release reachability repeatability = .ok evaluation ↔
      flow.growthId = growth.growthId ∧
        Holds .assertion2 (assertion2Finding growth flow bound release reachability repeatability)
          (ids growth flow [bound.facts, release.facts]) evaluation := by
  unfold evaluateAssertion2
  rw [bind_ok]
  simp only [context_ok, result_ok]
  exact ⟨fun ⟨_, same, holds⟩ => ⟨same, holds⟩, fun ⟨same, holds⟩ => ⟨(), same, holds⟩⟩

theorem assertion_1_matched
    (matched : (assertion1Finding growth flow guard bound amplification reachability).status =
      .matched) :
    growth.status = .verified ∧ flow.satisfiesPremise = true ∧ guard.status = .ineffective ∧
      bound.status ≠ .unknown ∧ bound.status ≠ .effective := by
  have unapplied := firstRule_otherwise
    (assertion1Rules growth flow guard bound amplification reachability) _
    (fun finding : Finding => finding.status = .matched) matched (by simp [assertion1Rules])
  simp only [assertion1Rules, List.forall_mem_cons, Bool.or_eq_false_iff, decide_eq_false_iff_not,
    not_not] at unapplied
  obtain ⟨_, _, _, _, verified, proven, _, ⟨guardKnown, _⟩, unguarded, ⟨boundKnown, _⟩,
    unbounded, _⟩ := unapplied
  refine ⟨verified, by simpa [VerifiedFlow.satisfiesPremise] using proven, ?_, boundKnown,
    unbounded⟩
  cases status : guard.status with
  | effective => exact absurd status unguarded
  | ineffective => rfl
  | unknown => exact absurd status guardKnown

theorem assertion_2_matched
    (matched : (assertion2Finding growth flow bound release reachability repeatability).status =
      .matched) :
    growth.status = .verified ∧ flow.satisfiesPremise = true ∧ bound.status ≠ .unknown ∧
      bound.status ≠ .effective ∧ release.status ≠ .unknown ∧ release.status ≠ .effective := by
  have unapplied := firstRule_otherwise
    (assertion2Rules growth flow bound release reachability repeatability) _
    (fun finding : Finding => finding.status = .matched) matched (by simp [assertion2Rules])
  simp only [assertion2Rules, List.forall_mem_cons, Bool.or_eq_false_iff, decide_eq_false_iff_not,
    not_not] at unapplied
  obtain ⟨_, _, _, _, verified, proven, _, _, _, _, ⟨boundKnown, _⟩, unbounded, _,
    ⟨⟨releaseKnown, _⟩, _⟩, unreleased, _⟩ := unapplied
  exact ⟨verified, by simpa [VerifiedFlow.satisfiesPremise] using proven, boundKnown, unbounded,
    releaseKnown, unreleased⟩

end DosWeb.Conclude
