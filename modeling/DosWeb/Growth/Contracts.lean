import DosWeb.Growth.Slices

/-!
The provider's answer about a candidate: read from JSON and bound to the facts of its slice.
-/

namespace DosWeb.Growth

open Library Library.JsonValue

def Answer.text : Answer → String
  | .yes => "yes"
  | .no => "no"
  | .unknown => "unknown"

def ResourceEffect.text : ResourceEffect → String
  | .materializesBytes => "materializes_bytes"
  | .allocatesObjects => "allocates_objects"
  | .addsEntries => "adds_entries"
  | .enqueuesTasks => "enqueues_tasks"
  | .opensConnections => "opens_connections"
  | .unknown => "unknown"

def RequestsToPressure.text : RequestsToPressure → String
  | .one => "one"
  | .few => "few"
  | .many => "many"
  | RequestsToPressure.implausible => "implausible"
  | .unknown => "unknown"

def FailureMechanism.text : FailureMechanism → String
  | .heapExhaustion => "heap_exhaustion"
  | .gcThrashing => "gc_thrashing"
  | .cpuStarvation => "cpu_starvation"
  | .threadExhaustion => "thread_exhaustion"
  | .connectionExhaustion => "connection_exhaustion"
  | .queueLatencyCollapse => "queue_latency_collapse"
  | .none => "none"
  | .unknown => "unknown"

def ContractStatus.text : ContractStatus → String
  | .dosRelevant => "dos_relevant"
  | .growthNotDosRelevant => "growth_not_dos_relevant"
  | .unknown => "unknown"

def RejectionReason.text : RejectionReason → String
  | .none => "none"
  | .requestLocalBounded => "request_local_bounded"
  | .serverControlled => "server_controlled"
  | .fixedCardinality => "fixed_cardinality"
  | .effectivePrecondition => "effective_precondition"
  | .lowAmplification => "low_amplification"
  | .noFailureMechanism => "no_failure_mechanism"
  | .unknown => "unknown"

def Confidence.text : Confidence → String
  | .high => "high"
  | .medium => "medium"
  | .low => "low"

def schemaError : Raised := .analyzer ⟨"LLM_RESPONSE_SCHEMA_INVALID",
    "The provider response does not match the Growth Contract schema.", []⟩

def invalidContract (message : String) : Raised :=
  .analyzer ⟨"LLM_RESPONSE_SCHEMA_INVALID", message, []⟩

def providerContractKeys : List String :=
  ["is_resource_growth", "attacker_evidence_ids", "resource_effect", "attacker_variable",
    "attacker_value_space", "growth_unit", "growth_function", "amplification_class",
    "requests_to_pressure", "concurrency_model", "retention_window", "failure_mechanism",
    "failure_signal", "required_static_evidence", "contract_status", "rejection_reason",
    "confidence"]

def contractTextBytes : Nat := 4096

section

variable {F : Type} (discloses : String → Bool)

def contractEnum {α : Type} (members : List α) (text : α → String) (payload : Json F)
    (name : String) : Checked α :=
  match field name payload with
  | some (.str value) =>
    match members.find? fun item => text item = value with
    | some item => .ok item
    | none => .error schemaError
  | _ => .error schemaError

def contractText (payload : Json F) (name : String) : Checked String :=
  match field name payload with
  | some (.str value) =>
    if value ≠ "" ∧ (Text.utf8 value.toList).length ≤ contractTextBytes then .ok value
    else .error schemaError
  | _ => .error schemaError

def citedItems : List (Json F) → Checked (List String)
  | [] => .ok []
  | .str value :: items => do
      require ((Text.utf8 value.toList).length ≤ 256) schemaError
      let others ← citedItems items
      return value :: others
  | _ :: _ => .error schemaError

/-- The identifiers under a key, at most the given number. -/
def contractIds (payload : Json F) (name : String) (limit : Nat) : Checked (List String) :=
  match field name payload with
  | some (.arr items) => do
      require (items.length ≤ limit) schemaError
      citedItems items
  | _ => .error schemaError

/-- The answer before it is bound to a slice; its identifiers are the provider's aliases. -/
structure ProviderGrowthContract where
  isResourceGrowth : Answer
  attackerEvidenceIds : List String
  resourceEffect : ResourceEffect
  attackerVariable : String
  attackerValueSpace : ValueSpace
  growthUnit : String
  growthFunction : String
  amplificationClass : AmplificationClass
  requestsToPressure : RequestsToPressure
  concurrencyModel : String
  retentionWindow : RetentionWindow
  failureMechanism : FailureMechanism
  failureSignal : String
  requiredStaticEvidence : List String
  contractStatus : ContractStatus
  rejectionReason : RejectionReason
  confidence : Confidence

/-- A free text on one line that the patterns for secrets and source code do not match. -/
def freeText (value : String) : Bool :=
  value ≠ "" && (Text.utf8 value.toList).length ≤ contractTextBytes &&
    !value.toList.contains (Char.ofNat 0) && !value.toList.contains '\n' &&
    !value.toList.contains '\r' && !discloses value

/-- What a status allows for the reason of a rejection and for the growth itself. -/
def statusAllowed (status : ContractStatus) (reason : RejectionReason) (growth : Answer) : Prop :=
  (status = .growthNotDosRelevant → reason ≠ .none ∧ reason ≠ .unknown) ∧
    (status = .dosRelevant → reason = .none) ∧ (status = .dosRelevant → growth = .yes) ∧
    (status = .unknown → reason = .unknown ∧ growth = .unknown)

instance (status : ContractStatus) (reason : RejectionReason) (growth : Answer) :
    Decidable (statusAllowed status reason growth) := by
  unfold statusAllowed
  infer_instance

def ProviderGrowthContract.valid (contract : ProviderGrowthContract) : Bool :=
  contract.attackerEvidenceIds.length ≤ 16 && contract.attackerEvidenceIds.Nodup &&
    contract.attackerEvidenceIds.all (validId · "fact:") &&
    contract.requiredStaticEvidence.length ≤ 32 && contract.requiredStaticEvidence.Nodup &&
    contract.requiredStaticEvidence.all (validId · "fact:") &&
    [contract.attackerVariable, contract.growthUnit, contract.growthFunction,
      contract.concurrencyModel, contract.failureSignal].all (freeText discloses) &&
    statusAllowed contract.contractStatus contract.rejectionReason contract.isResourceGrowth &&
    (contract.contractStatus ≠ .dosRelevant ||
      contract.attackerEvidenceIds ≠ [] && contract.requiredStaticEvidence ≠ [])

def keysOf : Json F → List String
  | .obj members => members.map Prod.fst
  | _ => []

def validateProviderGrowthContract (payload : Json F) : Checked ProviderGrowthContract := do
  require (providerContractKeys.all (keysOf payload).contains &&
    (keysOf payload).all providerContractKeys.contains) schemaError
  let attackerEvidenceIds ← contractIds payload "attacker_evidence_ids" 16
  let requiredStaticEvidence ← contractIds payload "required_static_evidence" 32
  let isResourceGrowth ← contractEnum [.yes, .no, .unknown] Answer.text payload
    "is_resource_growth"
  let resourceEffect ← contractEnum [.materializesBytes, .allocatesObjects, .addsEntries,
    .enqueuesTasks, .opensConnections, .unknown] ResourceEffect.text payload "resource_effect"
  let attackerVariable ← contractText payload "attacker_variable"
  let attackerValueSpace ← contractEnum [.stream, .unlimited, .large, .limited,
    .serverControlled, .unknown] ValueSpace.text payload "attacker_value_space"
  let growthUnit ← contractText payload "growth_unit"
  let growthFunction ← contractText payload "growth_function"
  let amplificationClass ← contractEnum [.superlinear, .largeSingleRequest, .concurrentRetention,
    .queueInstability, .highCardinalityRetention, .lowAmplification, .unknown]
    AmplificationClass.text payload "amplification_class"
  let requestsToPressure ← contractEnum [.one, .few, .many, RequestsToPressure.implausible, .unknown]
    RequestsToPressure.text payload "requests_to_pressure"
  let concurrencyModel ← contractText payload "concurrency_model"
  let retentionWindow ← contractEnum [.request, .session, .process, .untilRelease, .unknown]
    RetentionWindow.text payload "retention_window"
  let failureMechanism ← contractEnum [.heapExhaustion, .gcThrashing, .cpuStarvation,
    .threadExhaustion, .connectionExhaustion, .queueLatencyCollapse, .none, .unknown]
    FailureMechanism.text payload "failure_mechanism"
  let failureSignal ← contractText payload "failure_signal"
  let contractStatus ← contractEnum [.dosRelevant, .growthNotDosRelevant, .unknown]
    ContractStatus.text payload "contract_status"
  let rejectionReason ← contractEnum [.none, .requestLocalBounded, .serverControlled,
    .fixedCardinality, .effectivePrecondition, .lowAmplification, .noFailureMechanism, .unknown]
    RejectionReason.text payload "rejection_reason"
  let confidence ← contractEnum [.high, .medium, .low] Confidence.text payload "confidence"
  let contract : ProviderGrowthContract := {
    isResourceGrowth, attackerEvidenceIds, resourceEffect, attackerVariable, attackerValueSpace
    growthUnit, growthFunction, amplificationClass, requestsToPressure, concurrencyModel
    retentionWindow, failureMechanism, failureSignal, requiredStaticEvidence, contractStatus
    rejectionReason, confidence }
  require (contract.valid discloses) (invalidContract "Invalid provider Growth Contract.")
  return contract

end

/-- The original identifiers behind aliases; without aliases they stand for themselves. -/
def restoreAll (aliases : List (String × String)) : List String → Checked (List String)
  | [] => .ok []
  | value :: values => do
      let original ←
        if aliases = [] then .ok value
        else match aliases.lookup value with
          | some original => .ok original
          | none => .error (invalidContract "Growth Contract cites an unknown provider alias.")
      let originals ← restoreAll aliases values
      return original :: originals

/-- The growth that a sink of the kind grows, with its dimension. -/
def StaticFactKind.sinkShape : StaticFactKind → Option (GrowthKind × ResourceDimension)
  | .inputMaterialization => some (.inputMaterialization, .bytes)
  | .allocation => some (.directAllocation, .bytes)
  | .containerWrite => some (.containerGrowth, .entries)
  | .asyncSubmission => some (.asyncWorkGrowth, .tasks)
  | _ => none

def sinkShapes (facts : List StaticFact) : List (GrowthKind × ResourceDimension) :=
  ((facts.filter fun fact => fact.relation = .sink).filterMap fun fact => fact.kind.sinkShape).dedup

def influenceTargets : List DemandRole :=
  [.size, .key, .value, .iterationCount, .submissionCount, .unknown]

/-- The distinct targets that the facts give for a flow. -/
def targetsOf (facts : List StaticFact) (evidenceId : String) : List String :=
  ((facts.filter fun fact => fact.kind = .attackerTarget && fact.valueRef = some evidenceId).filterMap
    StaticFact.normalizedValue).dedup

def tracesInput (fact : StaticFact) : Bool := (fact.kind = .flow || fact.kind = .driverOrigin) &&
    (fact.relation = .source || fact.relation = .flowsTo)

def influenceOf (facts : List StaticFact) (evidenceId : String) : Checked AttackerInfluence :=
  match targetsOf facts evidenceId, facts.find? fun fact => fact.factId = evidenceId with
  | [target], some fact =>
    match influenceTargets.find? fun role => role.text = target with
    | some role =>
      if valid : tracesInput fact = true ∧ validId evidenceId "fact:" = true then
        .ok ⟨role, evidenceId, valid.2⟩
      else .error schemaError
    | none => .error schemaError
  | _, _ => .error schemaError

def influencesOf (facts : List StaticFact) : List String → Checked (List AttackerInfluence)
  | [] => .ok []
  | evidenceId :: evidenceIds => do
      let influence ← influenceOf facts evidenceId
      let others ← influencesOf facts evidenceIds
      return influence :: others

/-- Binds an answer to the one growth shape that the sinks of the slice have. -/
def bindProviderGrowthContract (provider : ProviderGrowthContract) (boundedSlice : BoundedSlice)
    (aliases : List (String × String)) : Checked GrowthContract := do
  let attackerIds ← restoreAll aliases provider.attackerEvidenceIds
  let required ← restoreAll aliases provider.requiredStaticEvidence
  let facts := boundedSlice.payload.staticFacts
  require ((attackerIds ++ required).all (facts.map StaticFact.factId).contains) schemaError
  match sinkShapes facts with
  | [(growthKind, resourceDimension)] => do
      let influence ← influencesOf facts attackerIds
      if influenceBounded : influence.length ≤ 16 then
        if evidence : required.length ≤ 32 ∧
            ∀ identifier ∈ required, validId identifier "fact:" = true then
          if allowed : statusAllowed provider.contractStatus provider.rejectionReason
              provider.isResourceGrowth then
            .ok {
              isResourceGrowth := provider.isResourceGrowth
              growthKind := some growthKind
              resourceDimension := some resourceDimension
              attackerInfluence := influence
              resourceEffect := provider.resourceEffect
              attackerVariable := provider.attackerVariable
              attackerValueSpace := provider.attackerValueSpace
              growthUnit := provider.growthUnit
              growthFunction := provider.growthFunction
              amplificationClass := provider.amplificationClass
              requestsToPressure := provider.requestsToPressure
              concurrencyModel := provider.concurrencyModel
              retentionWindow := provider.retentionWindow
              failureMechanism := provider.failureMechanism
              failureSignal := provider.failureSignal
              requiredStaticEvidence := required
              contractStatus := provider.contractStatus
              rejectionReason := provider.rejectionReason
              confidence := provider.confidence
              influenceBounded
              evidenceBounded := evidence.1
              evidenceValid := evidence.2
              rejectionExplained := allowed.1
              relevanceUnrejected := allowed.2.1
              relevanceGrows := allowed.2.2.1
              unknownThroughout := allowed.2.2.2 }
          else .error (invalidContract "Invalid Growth Contract.")
        else .error (invalidContract "Invalid Growth Contract.")
      else .error (invalidContract "Invalid Growth Contract.")
  | _ => .error schemaError

/-- Every fact that a contract refers to is one of the slice. -/
def validateContractStaticEvidence (contract : GrowthContract) (staticFactIds : List String) :
    Checked GrowthContract := do
  require ((contract.attackerInfluence.map AttackerInfluence.evidenceId ++
    contract.requiredStaticEvidence).all staticFactIds.contains) schemaError
  return contract

end DosWeb.Growth
