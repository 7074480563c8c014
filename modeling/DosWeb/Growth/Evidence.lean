import DosWeb.Flows.Normalize
import DosWeb.Reachability.Models
import Mathlib.Algebra.Group.Int.Defs
import Mathlib.Algebra.GroupWithZero.Nat
import Mathlib.Data.List.Infix

/-!
The static evidence of an entry and a candidate: its flow facts come from the selected rows, and
the selection reads neither the source nor the sink expression of a row.
-/

namespace DosWeb.Growth

open Library Library.OrderedSet Identifiers
open Entries (EntryFact sampleEntry InputKind)
open Flows (FlowRow expressionBindsDemand dataFlowKind)
open Reachability (ModeledConfigurationFact ConfigurationValue)

def evidenceInvalid (reason : String) : Raised :=
  .analyzer ⟨"ANALYSIS_GROWTH_INVALID", "Growth static evidence cannot be constructed safely.",
    [("reason", .str reason)]⟩

def sliceInvalid : Raised :=
  .analyzer ⟨"LLM_BOUNDED_SLICE_INVALID", "Bounded slice violates the strict public-source schema.",
    []⟩

def GrowthKind.factKind : GrowthKind → StaticFactKind
  | .inputMaterialization => .inputMaterialization
  | .directAllocation => .allocation
  | .containerGrowth => .containerWrite
  | .asyncWorkGrowth => .asyncSubmission

def inputOrigin : InputKind → String
  | .requestBody => "request_body"
  | .requestParameter => "request_parameter"
  | .modelAttribute => "request_parameter"
  | .pathParameter => "request_path"
  | .header => "request_header"
  | .messagePayload => "network_message"
  | .stream => "request_stream"
  | .unknown => "unknown"

def maxLineNumber : Nat := 2147483647

def pathChar (c : Char) : Bool := c.isAlphanum || ['.', '_', '/', '-'].contains c

def excerptPath (path : String) : Bool :=
  path ≠ "" && (Text.utf8 path.toList).length ≤ 512 && !Text.startsWith path "/" &&
    !(Text.splitOn '/' path.toList).contains ['.', '.'] && path.toList.all pathChar

def shaShape (text : String) : Bool :=
  text.toList.length = 64 && text.toList.all fun c => "0123456789abcdef".toList.contains c

def redactionPatterns : List String :=
  ["credential_assignment", "credential_header", "credential_mutator"]

structure AttestedExcerpt where
  excerptId : String
  repoRelativePath : String
  startLine : Nat
  endLine : Nat
  content : String
  gitBlobSha256 : String
  excerptSha256 : String
  originalExcerptSha256 : String
  redactionEvents : List (Nat × String)
  redactionVersion : String
  excerptIdValid : validId excerptId "excerpt:" = true
  pathValid : excerptPath repoRelativePath = true
  linesValid : 1 ≤ startLine ∧ startLine ≤ endLine ∧ endLine ≤ maxLineNumber
  contentValid : content ≠ "" ∧ (Text.utf8 content.toList).length ≤ 16384
  blobValid : shaShape gitBlobSha256 = true
  originalValid : shaShape originalExcerptSha256 = true
  contentHashed : excerptSha256 = Sha256.hexdigest (Text.utf8 content.toList)
  redactionsBounded : redactionEvents.length ≤ 256
  redactionsValid : ∀ event ∈ redactionEvents,
    1 ≤ event.1 ∧ event.1 ≤ maxLineNumber ∧ event.2 ∈ redactionPatterns
  versionValid : redactionVersion ≠ "" ∧ (Text.utf8 redactionVersion.toList).length ≤ 32

def AttestedExcerpt.toDict (excerpt : AttestedExcerpt) : PlainJson :=
  .obj [("excerpt_id", .str excerpt.excerptId),
    ("repo_relative_path", .str excerpt.repoRelativePath),
    ("start_line", .int excerpt.startLine), ("end_line", .int excerpt.endLine),
    ("content", .str excerpt.content), ("git_blob_sha256", .str excerpt.gitBlobSha256),
    ("excerpt_sha256", .str excerpt.excerptSha256),
    ("original_excerpt_sha256", .str excerpt.originalExcerptSha256),
    ("redaction_events", .arr (excerpt.redactionEvents.map fun event =>
      .obj [("line", .int event.1), ("pattern_id", .str event.2)])),
    ("redaction_version", .str excerpt.redactionVersion)]

/-- The first excerpt, in the order of their records, that covers a line. -/
def coveringExcerpt (excerpts : List AttestedExcerpt) (file : String) (line : Nat)
    (reason : String) : Checked AttestedExcerpt :=
  let covering := excerpts.filter fun excerpt =>
    excerpt.repoRelativePath = file ∧ excerpt.startLine ≤ line ∧ line ≤ excerpt.endLine
  match covering.insertionSort fun left right =>
      canonicalJson left.toDict ≤ canonicalJson right.toDict with
  | first :: _ => .ok first
  | [] => .error (evidenceInvalid reason)

def StaticFact.create (factId : String) (kind : StaticFactKind) (locationRef : String)
    (relation : FactRelation) (valueRef normalizedValue : Option String) : Checked StaticFact :=
  if factIdValid : validId factId "fact:" = true then
    if locationValid : validId locationRef "excerpt:" = true then
      if valueRefValid : ∀ reference ∈ valueRef, validId reference "fact:" = true then
        if valueValid : validNormalizedValue kind normalizedValue = true then
          .ok ⟨factId, kind, locationRef, relation, valueRef, normalizedValue, factIdValid,
            locationValid, valueRefValid, valueValid⟩
        else .error sliceInvalid
      else .error sliceInvalid
    else .error sliceInvalid
  else .error sliceInvalid

structure CfgSummary where
  pathIds : List String
  phases : List String
  branchFacts : List String

def CfgSummary.create (pathIds phases branchFacts : List String) : Checked CfgSummary := do
  require (pathIds.length ≤ 64 ∧ phases.length ≤ 16 ∧ branchFacts.length ≤ 256) sliceInvalid
  require (pathIds.all fun id => validId id "path:") sliceInvalid
  require pathIds.Nodup sliceInvalid
  require (phases.all fun phase =>
    ["before_handler", "in_handler", "streaming", "after_handler"].contains phase) sliceInvalid
  require (branchFacts.all fun id => validId id "fact:") sliceInvalid
  return ⟨pathIds, phases, branchFacts⟩

inductive ConfigKind where
  | requestLimit
  | timeout
  | capacity
  | featureState
  deriving DecidableEq

structure ConfigFact where
  kind : ConfigKind
  normalizedValue : String ⊕ Int
  sourceLocationRef : String
  configId : String

def configTexts : List String := ["enabled", "disabled", "finite", "unbounded", "unknown"]

def maxConfigInteger : Int := 2 ^ 63 - 1

def ConfigFact.create (kind : ConfigKind) (normalizedValue : String ⊕ Int)
    (sourceLocationRef configId : String) : Checked ConfigFact := do
  require (match normalizedValue with
    | .inl text => configTexts.contains text
    | .inr number => -maxConfigInteger ≤ number ∧ number ≤ maxConfigInteger) sliceInvalid
  require (validId sourceLocationRef "excerpt:" || validId sourceLocationRef "config:") sliceInvalid
  require (validId configId "config:") sliceInvalid
  require (!Text.startsWith sourceLocationRef "config:" || sourceLocationRef = configId)
    sliceInvalid
  return ⟨kind, normalizedValue, sourceLocationRef, configId⟩

/-- How an entry is registered, and the excerpt that shows it. -/
structure RegistrationEvidence where
  kind : Entries.Framework
  locationRef : String

structure GrowthStaticEvidence where
  staticFacts : List StaticFact
  cfgSummary : CfgSummary
  registrationFacts : List RegistrationEvidence
  configFacts : List ConfigFact
  coverageStatus : CandidateCoverageStatus
  coverageNotes : TextSet

section

variable (candidate : GrowthCandidate)

def valueSpace (hasFlow : Bool) : String :=
  if !hasFlow then "unknown"
  else match candidate.kind with
    | .inputMaterialization => if candidate.resourceDimension = .bytes then "stream" else "large"
    | .directAllocation => "large"
    | .containerGrowth => if .key ∈ candidate.demandRoles then "unlimited" else "large"
    | .asyncWorkGrowth =>
      if .iterationCount ∈ candidate.demandRoles ∨ .submissionCount ∈ candidate.demandRoles then
        "unlimited"
      else "large"

def retention : String :=
  match candidate.escapeScope with
  | .request => "request"
  | .session => "session"
  | .instance_ => "process"
  | .global => "process"
  | .unknown => "unknown"

def amplification : String :=
  match candidate.kind with
  | .inputMaterialization => "large_single_request"
  | .directAllocation => "large_single_request"
  | .containerGrowth =>
    if .key ∈ candidate.demandRoles then "high_cardinality_retention"
    else if candidate.escapeScope ≠ .request then "concurrent_retention"
    else "low_amplification"
  | .asyncWorkGrowth =>
    if .iterationCount ∈ candidate.demandRoles ∨ .submissionCount ∈ candidate.demandRoles then
      "queue_instability"
    else "low_amplification"

def loopMultiplicity : String :=
  if .iterationCount ∈ candidate.demandRoles ∨ .submissionCount ∈ candidate.demandRoles then
    "attacker_controlled_loop"
  else if candidate.kind = .containerGrowth ∨ candidate.kind = .asyncWorkGrowth then
    "repeated_requests"
  else "single_operation"

def fieldIdentity : String :=
  if .key ∈ candidate.demandRoles then "attacker_key"
  else if candidate.escapeScope = .request then "request_local"
  else if .value ∈ candidate.demandRoles then "attacker_value"
  else if candidate.fieldPath.1 ≠ "" then "field_backed"
  else "unknown"

end

def holdsAny (text : String) (tokens : List String) : Bool :=
  tokens.any fun token => decide (token.toList <:+: text.toList)

def configurationKind (lower : String → String) (key : String) : ConfigKind :=
  let lowered := lower key
  if holdsAny lowered ["timeout"] then .timeout
  else if holdsAny lowered ["capacity", "queue", "quota"] then .capacity
  else if holdsAny lowered ["max", "limit", "size", "body", "payload", "request"] then .requestLimit
  else .featureState

def configurationValue (value : Option ConfigurationValue) : String ⊕ Int :=
  match value with
  | some (.integer number) => .inr number
  | some (.flag true) => .inl "enabled"
  | some (.flag false) => .inl "disabled"
  | some (.text text) => .inl (if text ∈ configTexts then text else "unknown")
  | none => .inl "unknown"

def StaticFactKind.text : StaticFactKind → String
  | .containerWrite => "container_write"
  | .allocation => "allocation"
  | .inputMaterialization => "input_materialization"
  | .asyncSubmission => "async_submission"
  | .flow => "flow"
  | .guard => "guard"
  | .bound => "bound"
  | .release => "release"
  | .driverOrigin => "driver_origin"
  | .valueSpace => "value_space"
  | .escapeScope => "escape_scope"
  | .retention => "retention"
  | .amplification => "amplification"
  | .loopMultiplicity => "loop_multiplicity"
  | .fieldIdentity => "field_identity"
  | .materializationPhase => "materialization_phase"
  | .knownLimitLocation => "known_limit_location"
  | .attackerTarget => "attacker_target"

section

variable (entry : EntryFact) (candidate : GrowthCandidate)

/-- Where the one attacker input of a name comes from. -/
def driverOrigin (sourceName : String) : String :=
  match entry.attackerInputs.filter fun input => input.name.1 = sourceName with
  | [input] => inputOrigin input.kind
  | _ => "unknown"

/-- The rows that are selected: by locations, role and status. -/
def selectsRow (row : FlowRow) : Bool :=
  row.sourceFile = entry.handler.file.1 && row.sourceStartLine = entry.handler.startLine.1 &&
    row.sinkFile = candidate.site.file.1 && row.sinkStartLine = candidate.site.startLine.1 &&
    (candidate.demandRoles.map DemandRole.text).contains row.attackerTarget &&
    dataFlowKind row.flowKind && row.confidence = "proven" && row.coverageStatus = "complete"

def matchedFlows (rows : List FlowRow) : List FlowRow :=
  (rows.filter (selectsRow entry candidate)).insertionSort fun left right =>
    canonicalJson left.toDict ≤ canonicalJson right.toDict

def flowFactId (row : FlowRow) : String :=
  stableIdentifier "fact" [("entry_id", .str entry.entryId), ("growth_id", .str candidate.growthId),
    ("target", .str row.attackerTarget), ("source", .str row.attackerSource),
    ("sink", .str row.attackerSink), ("call_path", .str row.callPath)]

def sourceFact (location : String) (row : FlowRow) : Checked StaticFact :=
  StaticFact.create (flowFactId entry candidate row) .flow location .flowsTo none
    (some (driverOrigin entry row.attackerSource))

def targetFact (location : String) (pair : FlowRow × StaticFact) : Checked StaticFact :=
  StaticFact.create (stableIdentifier "fact" [("entry_id", .str entry.entryId),
    ("growth_id", .str candidate.growthId), ("flow_fact_id", .str pair.2.factId),
    ("attacker_target", .str pair.1.attackerTarget)]) .attackerTarget location .source
    (some pair.2.factId) (some pair.1.attackerTarget)

def semanticFact (location : String) (valueRef : Option String)
    (semantic : StaticFactKind × String × FactRelation) : Checked StaticFact :=
  StaticFact.create (stableIdentifier "fact" [("entry_id", .str entry.entryId),
    ("growth_id", .str candidate.growthId), ("kind", .str semantic.1.text),
    ("value", .str semantic.2.1)]) semantic.1 location semantic.2.2 valueRef (some semantic.2.1)

def semanticValues (lower : String → String) (flows : List FlowRow)
    (configurationFacts : List ModeledConfigurationFact) :
    List (StaticFactKind × String × FactRelation) := [
  (.valueSpace, valueSpace candidate (flows ≠ []), if flows = [] then .sink else .flowsTo),
  (.escapeScope, candidate.escapeScope.text, .sink), (.retention, retention candidate, .sink),
  (.amplification, amplification candidate, .sink),
  (.loopMultiplicity, loopMultiplicity candidate, .sink),
  (.fieldIdentity, fieldIdentity candidate, .sink),
  (.materializationPhase, entry.materializationPhase.text, .sink),
  (.knownLimitLocation, if configurationFacts.any fun fact =>
      configurationKind lower fact.key = .requestLimit ∨
        configurationKind lower fact.key = .capacity then "configured_unknown_phase"
    else "none", .bounds)]

def configFact (lower : String → String) (excerpts : List AttestedExcerpt)
    (fact : ModeledConfigurationFact) : Checked ConfigFact := do
  let location ←
    if fact.sourceFile ≠ "" ∧ 1 ≤ fact.sourceLine then do
      let excerpt ← coveringExcerpt excerpts fact.sourceFile fact.sourceLine
        "CONFIG_LOCATION_UNATTESTED"
      pure excerpt.excerptId
    else pure fact.configId
  ConfigFact.create (configurationKind lower fact.key) (configurationValue fact.value) location
    fact.configId

def pathId (row : FlowRow) : String :=
  stableIdentifier "path" [("entry_id", .str entry.entryId), ("growth_id", .str candidate.growthId),
    ("call_path", .str row.callPath), ("phase_sequence", .str row.phaseSequence)]

/-- The phases a path runs through, where the entry names one. -/
def evidencePhases : List String :=
  if entry.materializationPhase = .unknown then [] else [entry.materializationPhase.text]

def adaptGrowthStaticEvidence (lower : String → String) (sourceExcerpts : List AttestedExcerpt)
    (flowRows : List FlowRow) (configurationFacts : List ModeledConfigurationFact) :
    Checked GrowthStaticEvidence := do
  require (sourceExcerpts ≠ []) (evidenceInvalid "INPUT_INVALID")
  require (sourceExcerpts.map AttestedExcerpt.excerptId).Nodup
    (evidenceInvalid "DUPLICATE_EXCERPT_ID")
  let growthExcerpt ← coveringExcerpt sourceExcerpts candidate.site.file.1
    candidate.site.startLine.1 "CANDIDATE_LOCATION_UNATTESTED"
  let registrationExcerpt ← coveringExcerpt sourceExcerpts entry.registration.file.1
    entry.registration.startLine.1 "REGISTRATION_LOCATION_UNATTESTED"
  let handlerExcerpt ← coveringExcerpt sourceExcerpts entry.handler.file.1
    entry.handler.startLine.1 "HANDLER_LOCATION_UNATTESTED"
  let flows := matchedFlows entry candidate flowRows
  let sourceFacts ← flows.mapM (sourceFact entry candidate handlerExcerpt.excerptId)
  let targetFacts ← (flows.zip sourceFacts).mapM
    (targetFact entry candidate handlerExcerpt.excerptId)
  let primarySource := sourceFacts.head?.map StaticFact.factId
  let sinkFacts ← candidate.evidenceIds.values.mapM fun evidenceId =>
    StaticFact.create evidenceId candidate.kind.factKind growthExcerpt.excerptId .sink primarySource
      none
  let origins := sortedSet (flows.map fun row => driverOrigin entry row.attackerSource)
  let driverFacts ← (origins.map fun origin => (StaticFactKind.driverOrigin, origin,
    FactRelation.source)).mapM (semanticFact entry candidate handlerExcerpt.excerptId none)
  let semanticFacts ← (semanticValues entry candidate lower flows configurationFacts).mapM
    (semanticFact entry candidate growthExcerpt.excerptId primarySource)
  let staticFacts := (sourceFacts ++ targetFacts ++ sinkFacts ++ driverFacts ++
    semanticFacts).insertionSort fun left right => left.factId ≤ right.factId
  let configFacts ← configurationFacts.mapM (configFact lower sourceExcerpts)
  let cfgSummary ← CfgSummary.create (flows.map (pathId entry candidate)).eraseDups
    (evidencePhases entry) (driverFacts.map StaticFact.factId ++
      (targetFacts ++ semanticFacts).map StaticFact.factId)
  return {
    staticFacts, cfgSummary
    registrationFacts := [⟨entry.framework, registrationExcerpt.excerptId⟩]
    configFacts
    coverageStatus := candidate.coverageStatus
    coverageNotes := candidate.coverageNotes }

/-- The row starts at an input of the entry and its sink binds a demand of the candidate with
the row's role. -/
def AboutCandidate (row : FlowRow) : Prop :=
  (∃ input ∈ entry.attackerInputs, input.name.1 = row.attackerSource) ∧
    ∃ demand ∈ candidate.demandInputs, demand.role.text = row.attackerTarget ∧
      expressionBindsDemand demand.name.1 row.attackerSink = true

/-- Every selected row, or another with the same fact, is about the entry and the candidate. -/
def SelectionSound (flowRows : List FlowRow) : Prop :=
  ∀ row ∈ flowRows, selectsRow entry candidate row = true →
    ∃ other ∈ flowRows, selectsRow entry candidate other = true ∧
      AboutCandidate entry candidate other ∧
      flowFactId entry candidate other = flowFactId entry candidate row

variable (factId : String) (kind : StaticFactKind) (location : String) (relation : FactRelation)
  (valueRef value : Option String)

theorem static_fact_created (fact : StaticFact)
    (created : StaticFact.create factId kind location relation valueRef value = .ok fact) :
    fact.factId = factId ∧ fact.kind = kind := by
  unfold StaticFact.create at created
  split_ifs at created
  cases created
  exact ⟨rfl, rfl⟩

theorem mem_matched_flows (rows : List FlowRow) (row : FlowRow) :
    row ∈ matchedFlows entry candidate rows ↔
      row ∈ rows ∧ selectsRow entry candidate row = true := by
  simp [matchedFlows]

theorem created_kind {α : Type} (items : List α) (step : α → Checked StaticFact)
    (facts : List StaticFact) (run : items.mapM step = .ok facts) (kinds : StaticFactKind → Prop)
    (each : ∀ item ∈ items, ∀ fact, step item = .ok fact → kinds fact.kind)
    (fact : StaticFact) (member : fact ∈ facts) : kinds fact.kind := by
  obtain ⟨item, inside, created⟩ := related_left (mapM_ok.mp run).flip fact member
  exact each item inside fact created

variable (lower : String → String)

theorem semantic_kinds (flows : List FlowRow) (configurationFacts : List ModeledConfigurationFact) :
    ∀ semantic ∈ semanticValues entry candidate lower flows configurationFacts,
      semantic.1 ≠ .flow := by
  simp [semanticValues]

theorem growth_fact_kind (kind : GrowthKind) : kind.factKind ≠ .flow := by
  cases kind <;> decide

theorem adapt_flow_facts (sourceExcerpts : List AttestedExcerpt)
    (flowRows : List FlowRow) (configurationFacts : List ModeledConfigurationFact)
    (evidence : GrowthStaticEvidence)
    (adapted : adaptGrowthStaticEvidence entry candidate lower sourceExcerpts flowRows
      configurationFacts = .ok evidence) (id : String) :
    (∃ fact ∈ evidence.staticFacts, fact.kind = .flow ∧ fact.factId = id) ↔
      ∃ row ∈ flowRows, selectsRow entry candidate row = true ∧
        flowFactId entry candidate row = id := by
  simp only [adaptGrowthStaticEvidence, bind_ok] at adapted
  obtain ⟨-, -, -, -, growthExcerpt, -, registrationExcerpt, -, handlerExcerpt, -, sourceFacts,
    sourceRun, targetFacts, targetRun, sinkFacts, sinkRun, driverFacts, driverRun, semanticFacts,
    semanticRun, configFacts, -, cfgSummary, -, built⟩ := adapted
  cases built
  have targets := created_kind _ _ _ targetRun (· ≠ .flow) fun _ _ fact created => by
    rw [(static_fact_created _ _ _ _ _ _ fact created).2]
    decide
  have sinks := created_kind _ _ _ sinkRun (· ≠ .flow) fun _ _ fact created => by
    rw [(static_fact_created _ _ _ _ _ _ fact created).2]
    exact growth_fact_kind candidate.kind
  have drivers := created_kind _ _ _ driverRun (· ≠ .flow) fun item member fact created => by
    rw [(static_fact_created _ _ _ _ _ _ fact created).2]
    obtain ⟨origin, -, same⟩ := List.mem_map.mp member
    exact same ▸ (by decide : StaticFactKind.driverOrigin ≠ .flow)
  have semantics := created_kind _ _ _ semanticRun (· ≠ .flow) fun item member fact created => by
    rw [(static_fact_created _ _ _ _ _ _ fact created).2]
    exact semantic_kinds entry candidate lower _ _ item member
  rw [mapM_ok] at sourceRun
  constructor
  · intro found
    obtain ⟨fact, member, flow, same⟩ := found
    simp only [List.mem_insertionSort, List.mem_append] at member
    rcases member with (((source | target) | sink) | driver) | semantic
    · obtain ⟨row, inside, created⟩ := related_left sourceRun.flip fact source
      have selected := (mem_matched_flows entry candidate flowRows row).mp inside
      have own := static_fact_created _ _ _ _ _ _ fact created
      exact ⟨row, selected.1, selected.2, own.1.symm.trans same⟩
    · exact absurd flow (targets fact target)
    · exact absurd flow (sinks fact sink)
    · exact absurd flow (drivers fact driver)
    · exact absurd flow (semantics fact semantic)
  · intro found
    obtain ⟨row, member, selected, same⟩ := found
    obtain ⟨fact, inside, created⟩ := related_left sourceRun row
      ((mem_matched_flows entry candidate flowRows row).mpr ⟨member, selected⟩)
    have own := static_fact_created _ _ _ _ _ _ fact created
    refine ⟨fact, ?_, own.2, own.1.trans same⟩
    simp only [List.mem_insertionSort, List.mem_append]
    exact Or.inl (Or.inl (Or.inl (Or.inl inside)))

/-- Every flow fact comes from a proven complete row about the entry and the candidate exactly
when the selected rows are. -/
theorem flow_facts_sound_iff (lower : String → String) (sourceExcerpts : List AttestedExcerpt)
    (flowRows : List FlowRow) (configurationFacts : List ModeledConfigurationFact)
    (evidence : GrowthStaticEvidence)
    (adapted : adaptGrowthStaticEvidence entry candidate lower sourceExcerpts flowRows
      configurationFacts = .ok evidence) : (∀ fact ∈ evidence.staticFacts, fact.kind = .flow →
        ∃ row ∈ flowRows, selectsRow entry candidate row = true ∧
          (dataFlowKind row.flowKind = true ∧ row.confidence = "proven" ∧
            row.coverageStatus = "complete") ∧
          AboutCandidate entry candidate row ∧ fact.factId = flowFactId entry candidate row) ↔
      SelectionSound entry candidate flowRows := by
  have facts := adapt_flow_facts entry candidate lower sourceExcerpts flowRows configurationFacts
    evidence adapted
  constructor
  · intro sound row member selected
    obtain ⟨fact, inside, flow, same⟩ := (facts _).mpr ⟨row, member, selected, rfl⟩
    obtain ⟨other, otherMember, otherSelected, -, about, own⟩ := sound fact inside flow
    exact ⟨other, otherMember, otherSelected, about, own.symm.trans same⟩
  · intro condition fact inside flow
    obtain ⟨row, member, selected, same⟩ := (facts fact.factId).mp ⟨fact, inside, flow, rfl⟩
    obtain ⟨other, otherMember, otherSelected, about, own⟩ := condition row member selected
    refine ⟨other, otherMember, otherSelected, ?_, about, (own.trans same).symm⟩
    simp only [selectsRow, Bool.and_eq_true, decide_eq_true_eq] at otherSelected
    exact ⟨otherSelected.1.1.2, otherSelected.1.2, otherSelected.2⟩

theorem static_fact_total (factIdValid : validId factId "fact:" = true)
    (locationValid : validId location "excerpt:" = true)
    (valueRefValid : ∀ reference ∈ valueRef, validId reference "fact:" = true)
    (valueValid : validNormalizedValue kind value = true) :
    ∃ fact, StaticFact.create factId kind location relation valueRef value = .ok fact := by
  rw [StaticFact.create, dif_pos factIdValid, dif_pos locationValid, dif_pos valueRefValid,
    dif_pos valueValid]
  exact ⟨_, rfl⟩

theorem summary_created_iff (pathIds phases branchFacts : List String) (created : CfgSummary)
    (paths : ∀ id ∈ pathIds, validId id "path:" = true) (distinct : pathIds.Nodup)
    (known : ∀ phase ∈ phases,
      phase ∈ ["before_handler", "in_handler", "streaming", "after_handler"])
    (branches : ∀ id ∈ branchFacts, validId id "fact:" = true) :
    CfgSummary.create pathIds phases branchFacts = .ok created ↔
      (pathIds.length ≤ 64 ∧ phases.length ≤ 16 ∧ branchFacts.length ≤ 256) ∧
        (⟨pathIds, phases, branchFacts⟩ : CfgSummary) = created := by
  have phasesKnown : (phases.all fun phase =>
      ["before_handler", "in_handler", "streaming", "after_handler"].contains phase) = true :=
    List.all_eq_true.mpr fun phase member => List.contains_iff_mem.mpr (known phase member)
  unfold CfgSummary.create
  simp only [bind_ok, require_ok, exists_const, decide_eq_true_eq, List.all_eq_true.mpr paths,
    distinct, phasesKnown, List.all_eq_true.mpr branches, true_and]
  exact and_congr_right fun _ => ⟨Except.ok.inj, congrArg _⟩

theorem fact_id_valid (identity : List (String × PlainJson)) :
    validId (stableIdentifier "fact" identity) "fact:" = true :=
  stable_identifier_valid "fact" "fact:" (by decide) identity (by decide) (by decide)
    (List.all_eq_true.mp (by decide))

theorem path_id_valid (identity : List (String × PlainJson)) :
    validId (stableIdentifier "path" identity) "path:" = true :=
  stable_identifier_valid "path" "path:" (by decide) identity (by decide) (by decide)
    (List.all_eq_true.mp (by decide))

theorem driver_origin_value (sourceName : String) :
    driverOriginValues.contains (driverOrigin entry sourceName) = true := by
  unfold driverOrigin
  split
  · rename_i input _
    cases input.kind <;> decide
  · decide

theorem driver_origin_valid (sourceName : String) :
    validNormalizedValue .driverOrigin (some (driverOrigin entry sourceName)) = true := by
  simpa [validNormalizedValue, StaticFactKind.values] using driver_origin_value entry sourceName

theorem flow_origin_valid (sourceName : String) :
    validNormalizedValue .flow (some (driverOrigin entry sourceName)) = true := by
  simpa [validNormalizedValue, StaticFactKind.values] using driver_origin_value entry sourceName

theorem semantic_values_valid (flows : List FlowRow)
    (configurationFacts : List ModeledConfigurationFact) :
    ∀ semantic ∈ semanticValues entry candidate lower flows configurationFacts,
      validNormalizedValue semantic.1 (some semantic.2.1) = true := by
  have space : validNormalizedValue .valueSpace (some (valueSpace candidate (flows ≠ []))) =
      true := by
    unfold valueSpace
    cases candidate.kind <;> split_ifs <;> decide
  have scope : validNormalizedValue .escapeScope (some candidate.escapeScope.text) = true := by
    cases candidate.escapeScope <;> decide
  have held : validNormalizedValue .retention (some (retention candidate)) = true := by
    unfold retention
    cases candidate.escapeScope <;> decide
  have amplified : validNormalizedValue .amplification (some (amplification candidate)) =
      true := by
    unfold amplification
    cases candidate.kind <;> split_ifs <;> decide
  have looped : validNormalizedValue .loopMultiplicity (some (loopMultiplicity candidate)) =
      true := by
    unfold loopMultiplicity
    split_ifs <;> decide
  have identified : validNormalizedValue .fieldIdentity (some (fieldIdentity candidate)) =
      true := by
    unfold fieldIdentity
    split_ifs <;> decide
  have phase : validNormalizedValue .materializationPhase
      (some entry.materializationPhase.text) = true := by
    cases entry.materializationPhase <;> decide
  intro semantic member
  simp only [semanticValues, List.mem_cons, List.not_mem_nil, or_false] at member
  rcases member with same | same | same | same | same | same | same | same
  all_goals subst same; first | assumption | (split_ifs <;> decide)

theorem covering_single (excerpt : AttestedExcerpt) (file : String) (line : Nat) (reason : String)
    (covers : excerpt.repoRelativePath = file ∧ excerpt.startLine ≤ line ∧ line ≤ excerpt.endLine) :
    coveringExcerpt [excerpt] file line reason = .ok excerpt := by
  simp [coveringExcerpt, covers]

end

theorem digest_shape (bytes : List UInt8) : shaShape (Sha256.hexdigest bytes) = true := by
  have length := Sha256.hexdigest_length bytes
  simp only [shaShape, Bool.and_eq_true, decide_eq_true_eq, List.all_eq_true,
    String.length_toList, List.contains_iff_mem]
  exact ⟨length, Sha256.hexdigest_digits bytes⟩

def sampleExcerpt : AttestedExcerpt where
  excerptId := "excerpt:cache"
  repoRelativePath := "src/Cache.java"
  startLine := 1
  endLine := 40
  content := "cache.put(token, 1); log.put(id, 2);"
  gitBlobSha256 := Sha256.hexdigest []
  excerptSha256 := Sha256.hexdigest _
  originalExcerptSha256 := Sha256.hexdigest []
  redactionEvents := []
  redactionVersion := "1"
  excerptIdValid := by decide
  pathValid := by decide
  linesValid := by decide
  contentValid := by decide
  blobValid := digest_shape _
  originalValid := digest_shape _
  contentHashed := rfl
  redactionsBounded := by decide
  redactionsValid := nofun
  versionValid := by decide

/-- A flow into another map on the line of the candidate, from another source. -/
def foreignRow : FlowRow where
  sourceFile := "src/Cache.java"
  sourceStartLine := 9
  sinkFile := "src/Cache.java"
  sinkStartLine := 12
  attackerTarget := "key"
  attackerSource := "session"
  attackerSink := "id"
  callPath := "Cache.put"
  phaseSequence := "in_handler"
  flowKind := "data_flow"
  confidence := "proven"
  coverageStatus := "complete"
  coverageNote := "normalized"

theorem foreign_row_selected : selectsRow sampleEntry sampleCandidate foreignRow = true := by
  decide

theorem foreign_row_elsewhere : ¬ AboutCandidate sampleEntry sampleCandidate foreignRow := by
  intro about
  obtain ⟨⟨input, member, name⟩, -⟩ := about
  rw [List.mem_singleton.mp member] at name
  exact absurd name (by decide)

theorem foreign_matched : matchedFlows sampleEntry sampleCandidate [foreignRow] =
    [foreignRow] := by
  simp [matchedFlows, foreign_row_selected]

theorem foreign_adapted (lower : String → String) : ∃ evidence,
    adaptGrowthStaticEvidence sampleEntry sampleCandidate lower [sampleExcerpt] [foreignRow]
      [] = .ok evidence := by
  have covers (file : String) (line : Nat) (reason : String) (same : "src/Cache.java" = file)
      (inside : 1 ≤ line ∧ line ≤ 40) :
      coveringExcerpt [sampleExcerpt] file line reason = .ok sampleExcerpt :=
    covering_single sampleExcerpt file line reason ⟨same, inside⟩
  have excerpt := sampleExcerpt.excerptIdValid
  have rows := foreign_matched
  obtain ⟨source, sourceMade⟩ := static_fact_total
    (flowFactId sampleEntry sampleCandidate foreignRow) .flow sampleExcerpt.excerptId
    .flowsTo none (some (driverOrigin sampleEntry foreignRow.attackerSource))
    (fact_id_valid _) excerpt (by simp) (flow_origin_valid sampleEntry _)
  have sourceRun : [foreignRow].mapM (sourceFact sampleEntry sampleCandidate
      sampleExcerpt.excerptId) = .ok [source] := mapM_ok.mpr (.cons sourceMade .nil)
  have sourceRef : ∀ reference ∈ some source.factId, validId reference "fact:" = true := by
    intro reference same
    cases same
    exact source.factIdValid
  obtain ⟨targets, targetRun⟩ := mapM_total (targetFact sampleEntry sampleCandidate
      sampleExcerpt.excerptId) [(foreignRow, source)] fun pair member => by
    rw [List.mem_singleton.mp member]
    exact static_fact_total _ _ _ _ _ _ (fact_id_valid _) excerpt sourceRef
      (by decide : validNormalizedValue .attackerTarget (some "key") = true)
  obtain ⟨sinks, sinkRun⟩ := mapM_total (fun evidenceId => StaticFact.create evidenceId
      sampleCandidate.kind.factKind sampleExcerpt.excerptId .sink (some source.factId) none)
      sampleCandidate.evidenceIds.values fun id member => by
    rw [List.mem_singleton.mp member]
    exact static_fact_total _ _ _ _ _ _ (by decide) excerpt sourceRef (by decide)
  obtain ⟨drivers, driverRun⟩ := mapM_total (semanticFact sampleEntry sampleCandidate
      sampleExcerpt.excerptId none) [(.driverOrigin, driverOrigin sampleEntry "session",
      .source)] fun semantic member => by
    rw [List.mem_singleton.mp member]
    exact static_fact_total _ _ _ _ _ _ (fact_id_valid _) excerpt (by simp)
      (driver_origin_valid sampleEntry "session")
  obtain ⟨semantics, semanticRun⟩ := mapM_total (semanticFact sampleEntry sampleCandidate
      sampleExcerpt.excerptId (some source.factId))
      (semanticValues sampleEntry sampleCandidate lower [foreignRow] [])
      fun semantic member => static_fact_total _ _ _ _ _ _ (fact_id_valid _) excerpt sourceRef
        (semantic_values_valid sampleEntry sampleCandidate lower _ _ semantic member)
  have counts : targets.length = 1 ∧ drivers.length = 1 ∧ semantics.length = 8 := by
    rw [mapM_ok] at targetRun driverRun semanticRun
    exact ⟨targetRun.length_eq.symm, driverRun.length_eq.symm, semanticRun.length_eq.symm⟩
  have single : ([foreignRow].map (pathId sampleEntry sampleCandidate)).eraseDups =
      [pathId sampleEntry sampleCandidate foreignRow] := by
    simp [List.eraseDups_cons]
  have summary : ∃ cfgSummary, CfgSummary.create
      [pathId sampleEntry sampleCandidate foreignRow] (evidencePhases sampleEntry)
      (drivers.map StaticFact.factId ++ (targets ++ semantics).map StaticFact.factId) =
        .ok cfgSummary := by
    refine ⟨_, (summary_created_iff _ _ _ _ ?_ (List.nodup_singleton _) (by decide) ?_).mpr
      ⟨?_, rfl⟩⟩
    · intro id member
      exact List.mem_singleton.mp member ▸ path_id_valid _
    · intro id member
      rw [← List.map_append] at member
      obtain ⟨fact, -, same⟩ := List.mem_map.mp member
      exact same ▸ fact.factIdValid
    · have phases : (evidencePhases sampleEntry).length ≤ 1 := by decide
      simp only [List.length_append, List.length_map, List.length_singleton]
      omega
  obtain ⟨cfgSummary, summaryMade⟩ := summary
  simp only [adaptGrowthStaticEvidence, bind_ok, require_ok, rows, single]
  exact ⟨_, (), by simp, (), by simp, sampleExcerpt, covers _ _ _ rfl (by decide), sampleExcerpt,
    covers _ _ _ rfl (by decide), sampleExcerpt, covers _ _ _ rfl (by decide), [source], sourceRun,
    targets, targetRun, sinks, sinkRun, drivers, driverRun, semantics, semanticRun, [], rfl,
    cfgSummary, summaryMade, rfl⟩

/-- A proven flow of another source into another map on the candidate's line becomes evidence of
the candidate. -/
theorem foreign_flow_is_evidence :
    ¬ ∀ (entry : EntryFact) (candidate : GrowthCandidate) (lower : String → String)
        (sourceExcerpts : List AttestedExcerpt) (flowRows : List FlowRow)
        (configurationFacts : List ModeledConfigurationFact) (evidence : GrowthStaticEvidence),
      adaptGrowthStaticEvidence entry candidate lower sourceExcerpts flowRows configurationFacts =
        .ok evidence → ∀ fact ∈ evidence.staticFacts, fact.kind = .flow →
        ∃ row ∈ flowRows, selectsRow entry candidate row = true ∧
          (dataFlowKind row.flowKind = true ∧ row.confidence = "proven" ∧
            row.coverageStatus = "complete") ∧
          AboutCandidate entry candidate row ∧ fact.factId = flowFactId entry candidate row := by
  intro sound
  obtain ⟨evidence, adapted⟩ := foreign_adapted id
  obtain ⟨fact, inside, flow, -⟩ := (adapt_flow_facts _ _ _ _ _ _ evidence adapted _).mpr
    ⟨foreignRow, List.mem_singleton_self _, foreign_row_selected, rfl⟩
  obtain ⟨row, member, -, -, about, -⟩ := sound _ _ _ _ _ _ evidence adapted fact inside flow
  exact foreign_row_elsewhere (List.mem_singleton.mp member ▸ about)

theorem foreign_flow_facts_unsound : ∃ evidence : GrowthStaticEvidence,
    (∀ fact ∈ evidence.staticFacts, fact.kind = .flow →
        ∃ row ∈ [foreignRow], selectsRow sampleEntry sampleCandidate row = true ∧
          (dataFlowKind row.flowKind = true ∧ row.confidence = "proven" ∧
            row.coverageStatus = "complete") ∧
          AboutCandidate sampleEntry sampleCandidate row ∧
          fact.factId = flowFactId sampleEntry sampleCandidate row) ↔
      SelectionSound sampleEntry sampleCandidate [foreignRow] := by
  obtain ⟨evidence, adapted⟩ := foreign_adapted id
  exact ⟨evidence, flow_facts_sound_iff _ _ _ _ _ _ evidence adapted⟩

end DosWeb.Growth
