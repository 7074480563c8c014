import DosWeb.Flows.Models

namespace DosWeb.Flows

open Library Library.Gates Library.OrderedSet Identifiers
open Entries (EntryFact)
open Growth (GrowthCandidate VerifiedGrowthResult optionalText)

inductive FlowStatus where
  | verified
  | partialProof
  | unresolved
  deriving DecidableEq

def FlowStatus.text : FlowStatus → String
  | .verified => "verified"
  | .partialProof => "partial"
  | .unresolved => "unresolved"

structure FlowCheck where
  name : String
  passed : Bool
  reasonCode : Option String := none
  deriving DecidableEq

def FlowCheck.toRow (check : FlowCheck) : PlainJson :=
  .arr [.str check.name, .bool check.passed, optionalText check.reasonCode]

def verifiedFlowIdentity (pathId entryId growthId : String) (status : FlowStatus)
    (reasonCodes : List String) (checks : List FlowCheck)
    (evidenceIds unresolvedFacts : List String) : List (String × PlainJson) :=
  [("path_id", .str pathId), ("entry_id", .str entryId), ("growth_id", .str growthId),
    ("status", .str status.text), ("reason_codes", .arr (reasonCodes.map .str)),
    ("checks", .arr (checks.map FlowCheck.toRow)), ("evidence_ids", .arr (evidenceIds.map .str)),
    ("unresolved_facts", .arr (unresolvedFacts.map .str))]

/-- What the constructor demands of a status with its reasons and checks. -/
structure FlowShape (status : FlowStatus) (reasonCodes : List String) (checks : List FlowCheck) :
    Prop where
  checked : checks ≠ []
  verifiedUnreasoned : status = .verified → reasonCodes = []
  verifiedPassed : status = .verified → ∀ check ∈ checks, check.passed = true
  failureReasoned : status ≠ .verified → reasonCodes ≠ []

instance (status : FlowStatus) (reasonCodes : List String) (checks : List FlowCheck) :
    Decidable (FlowShape status reasonCodes checks) :=
  decidable_of_iff (checks ≠ [] ∧ (status = .verified → reasonCodes = []) ∧
      (status = .verified → ∀ check ∈ checks, check.passed = true) ∧
      (status ≠ .verified → reasonCodes ≠ []))
    ⟨fun all => ⟨all.1, all.2.1, all.2.2.1, all.2.2.2⟩,
      fun shape => ⟨shape.checked, shape.verifiedUnreasoned, shape.verifiedPassed,
        shape.failureReasoned⟩⟩

structure VerifiedFlow where
  verifiedFlowId : String
  pathId : String
  entryId : String
  growthId : String
  status : FlowStatus
  reasonCodes : List String
  checks : List FlowCheck
  evidenceIds : List String
  unresolvedFacts : List String
  proof : FlowProof
  pathMatches : pathId = proof.pathId
  entryMatches : entryId = proof.entryId
  growthMatches : growthId = proof.growthId
  shape : FlowShape status reasonCodes checks
  idCanonical : verifiedFlowId = stableIdentifier "verified_flow" (verifiedFlowIdentity pathId
    entryId growthId status reasonCodes checks evidenceIds unresolvedFacts)

def VerifiedFlow.satisfiesPremise (flow : VerifiedFlow) : Bool := flow.status = .verified

def flowMalformed (message : String) : Raised := .analyzer ⟨"ANALYSIS_FLOW_INVALID", message, []⟩

def dangling (kind identifier : String) : Raised := .analyzer ⟨"ANALYSIS_DANGLING_FACT_REFERENCE",
    "Flow proof refers to a missing normalized fact.",
    [("kind", .str kind), ("identifier", .str (String.ofList (identifier.toList.take 128)))]⟩

/-- Every edge after the first leads from the callable reached so far to another one and
names a line of a relative path; an edge whose callables hold no tilde raises. -/
def callEdgesAreBound : List Char → List String → Checked Bool
  | _, [] => .ok true
  | current, edge :: edges =>
    if edge.toList.count '~' ≠ 1 ∨ edge.toList.count '@' ≠ 1 then .ok false
    else
      match Text.partitionLast '@' edge.toList with
      | none => .ok false
      | some (callables, location) =>
        match Text.partition '~' callables with
        | none => .error (.valueError "not enough values to unpack (expected 2, got 1)")
        | some (source, target) =>
          match Text.partitionLast ':' location with
          | none => .ok false
          | some (path, line) =>
            let normalizedLine := line.dropWhile (· = '0')
            if source ≠ current ∨ target = [] ∨ path = [] ∨ path.head? = some '/' ∨
                ['.', '.'] ∈ Text.splitOn '/' path ∨ Text.isDigit line = false ∨
                normalizedLine = [] ∨ 10 < normalizedLine.length ∨ (normalizedLine.length = 10 ∧
                  "2147483647" < String.ofList normalizedLine) then .ok false
            else callEdgesAreBound target edges

section

variable (flow : FlowProof) (entry : EntryFact) (candidate : GrowthCandidate)

/-- The flow starts at an input of the entry and ends at a demand of the growth. -/
def semanticsMapped : Bool :=
  (entry.attackerInputs.map fun input => input.name.1).contains flow.attackerControl.source.1 &&
    (candidate.demandInputs.filter fun demand =>
      demand.role = flow.attackerControl.target.role).any fun demand =>
        expressionBindsDemand demand.name.1 flow.attackerControl.sink.1

def entryRooted : Bool :=
  match flow.callPath with
  | [] => false
  | first :: _ =>
    first = entry.handler.callable.1 || Text.startsWith first (entry.handler.callable.1 ++ "[")

def callPathBound : Checked Bool :=
  if flow.callPath.length ≤ 4 ∧ flow.callPath.Nodup ∧
      flow.callPath.all (fun edge => edge ≠ "unmodeled_flow" && edge ≠ "unknown") = true then
    callEdgesAreBound entry.handler.callable.1.toList flow.callPath.tail
  else .ok false

/-- The edges are looked at only where the earlier checks pass. -/
def edgesChecked : Checked Bool :=
  if semanticsMapped flow entry candidate && entryRooted flow entry then callPathBound flow entry
  else .ok false

abbrev FlowFailure := FlowStatus × List String × List String

def flowGates (growthResult : VerifiedGrowthResult) (bound : Bool) : List (Gate FlowFailure) := [
  ⟨"entry_reference", none⟩, ⟨"growth_reference", none⟩,
  ⟨"entry_source_location", none⟩, ⟨"growth_sink_location", none⟩,
  ⟨"flow_semantics", failUnless (semanticsMapped flow entry candidate)
    (.unresolved, ["FLOW_SEMANTIC_MAPPING_INVALID"], ["attacker_control"])⟩, ⟨"call_path_edges",
    if entryRooted flow entry then
      failUnless bound (.partialProof, ["FLOW_CALL_PATH_EDGE_INVALID"], ["call_path_edges"])
    else some (.partialProof, ["FLOW_CALL_PATH_ENTRY_MISMATCH"], ["call_path"])⟩,
  ⟨"verified_growth", failUnless (growthResult.status = .verified)
    (.unresolved, ["FLOW_GROWTH_NOT_VERIFIED"], [growthResult.status.text])⟩, ⟨"data_flow_kind",
    failUnless (flow.flowKind.1 = "data_flow" || flow.flowKind.1 = "local_data_flow")
      (.partialProof, ["FLOW_KIND_NOT_PROVEN"], ["flow_kind"])⟩,
  ⟨"complete_coverage", failUnless (flow.coverageStatus = .complete)
    (.partialProof, "FLOW_COVERAGE_INCOMPLETE" ::
        (if flow.confidence = .partialProof then ["FLOW_CONFIDENCE_PARTIAL"] else []),
      ["flow_coverage"])⟩, ⟨"proven_confidence", failUnless (flow.confidence = .proven)
    (.partialProof, ["FLOW_CONFIDENCE_PARTIAL"], ["flow_confidence"])⟩]

/-- The checks of a flow to a growth of unknown semantics end at the third. -/
def contextlessGates : List (Gate FlowFailure) := [
  ⟨"entry_reference", none⟩, ⟨"growth_reference", none⟩,
  ⟨"flow_semantics", some (.unresolved, ["FLOW_GROWTH_CONTEXT_MISSING"], ["growth_context"])⟩]

end

def flowEvidence (flow : FlowProof) (entry : EntryFact) (growthResult : VerifiedGrowthResult) :
    List String := sortedSet ([flow.pathId, entry.entryId, growthResult.growthId] ++
    match growthResult.candidate with
    | none => []
    | some candidate => candidate.evidenceIds.values)

/-- Builds the verified flow under its stable identifier, through the constructor's checks. -/
def flowResult (flow : FlowProof) (status : FlowStatus) (reasons : List String)
    (checks : List FlowCheck) (evidence unresolved : List String) : Checked VerifiedFlow :=
  if shape : FlowShape status (sortedSet reasons) checks then
    .ok {
      verifiedFlowId := stableIdentifier "verified_flow" (verifiedFlowIdentity flow.pathId
        flow.entryId flow.growthId status (sortedSet reasons) checks evidence
        (sortedSet unresolved))
      pathId := flow.pathId
      entryId := flow.entryId
      growthId := flow.growthId
      status
      reasonCodes := sortedSet reasons
      checks
      evidenceIds := evidence
      unresolvedFacts := sortedSet unresolved
      proof := flow
      pathMatches := rfl
      entryMatches := rfl
      growthMatches := rfl
      shape
      idCanonical := rfl }
  else .error (flowMalformed "Verified flow result is malformed.")

def passedFlowCheck (name : String) : FlowCheck := ⟨name, true, none⟩

/-- The result of a run of the checks; a failing check carries its first reason. -/
def flowOutcome (flow : FlowProof) (evidence : List String)
    (outcome : List String × Option (String × FlowFailure)) : Checked VerifiedFlow :=
  match outcome with
  | (passed, none) => flowResult flow .verified [] (passed.map passedFlowCheck) evidence []
  | (passed, some (name, status, reasons, unresolved)) =>
    flowResult flow status reasons
      (passed.map passedFlowCheck ++ [⟨name, false, reasons.head?⟩]) evidence unresolved

def verifyFlow (flow : FlowProof) (entries : List (String × EntryFact))
    (growth : List (String × VerifiedGrowthResult)) : Checked VerifiedFlow :=
  match entries.lookup flow.entryId with
  | none => .error (dangling "entry" flow.entryId)
  | some entry =>
    match growth.lookup flow.growthId with
    | none => .error (dangling "growth" flow.growthId)
    | some growthResult =>
      if entry.entryId ≠ flow.entryId ∨ growthResult.growthId ≠ flow.growthId then
        .error (flowMalformed "Flow references are incompatible.")
      else
        let evidence := flowEvidence flow entry growthResult
        match growthResult.candidate with
        | none => flowOutcome flow evidence (run contextlessGates)
        | some candidate => do
            let bound ← edgesChecked flow entry candidate
            flowOutcome flow evidence
              (run (flowGates flow entry candidate growthResult bound))

variable (flow : FlowProof)

theorem flow_result_ids (status : FlowStatus) (reasons : List String)
    (checks : List FlowCheck) (evidence unresolved : List String) (built : VerifiedFlow)
    (returned : flowResult flow status reasons checks evidence unresolved = .ok built) :
    built.proof = flow ∧ built.status = status := by
  unfold flowResult at returned
  split at returned
  · cases returned
    exact ⟨rfl, rfl⟩
  · cases returned

theorem flow_outcome_proof (evidence : List String)
    (outcome : List String × Option (String × FlowFailure)) (built : VerifiedFlow)
    (returned : flowOutcome flow evidence outcome = .ok built) : built.proof = flow := by
  unfold flowOutcome at returned
  split at returned <;> exact (flow_result_ids _ _ _ _ _ _ _ returned).1

theorem flow_gate_failure (entry : EntryFact)
    (candidate : GrowthCandidate) (growthResult : VerifiedGrowthResult) (bound : Bool)
    (gate : Gate FlowFailure)
    (member : gate ∈ flowGates flow entry candidate growthResult bound) (failure : FlowFailure)
    (failed : gate.failure = some failure) :
    failure.1 ≠ .verified ∧ "" ∉ failure.2.1 ∧ "" ∉ failure.2.2 := by
  have status : growthResult.status.text ≠ "" := by
    cases growthResult.status <;> decide
  simp only [flowGates, List.mem_cons, List.not_mem_nil, or_false] at member
  rcases member with rfl | rfl | rfl | rfl | rfl | rfl | rfl | rfl | rfl | rfl
  case inr.inr.inr.inr.inr.inl =>
      simp only at failed
      split at failed
      · rw [← ((failUnless_fails _ _ _).mp failed).2]
        decide
      · cases failed
        decide
  case inr.inr.inr.inr.inr.inr.inl =>
      rw [← ((failUnless_fails _ _ _).mp failed).2]
      simpa using status.symm
  case inr.inr.inr.inr.inr.inr.inr.inr.inl =>
      rw [← ((failUnless_fails _ _ _).mp failed).2]
      split <;> decide
  all_goals
    first
    | cases failed
    | (rw [← ((failUnless_fails _ _ _).mp failed).2]; decide)

theorem verify_flow_proof (entries : List (String × EntryFact))
    (growth : List (String × VerifiedGrowthResult)) (built : VerifiedFlow)
    (returned : verifyFlow flow entries growth = .ok built) : built.proof = flow := by
  unfold verifyFlow at returned
  split at returned
  · cases returned
  · split at returned
    · cases returned
    · split at returned
      · cases returned
      · simp only at returned
        split at returned
        · exact flow_outcome_proof _ _ _ _ returned
        · rcases bind_ok.mp returned with ⟨bound, _, outcome⟩
          exact flow_outcome_proof _ _ _ _ outcome

end DosWeb.Flows
