import DosWeb.Growth.Evidence
import DosWeb.Library.Grouping

/-!
The payload of a bounded slice, and exactly when the evidence of a candidate makes one.
-/

namespace DosWeb.Growth

open Library
open Library.Grouping (erase_dups_renamed erase_dups_nodup)
open Library.JsonValue Library.OrderedSet Identifiers
open Entries (EntryFact sampleEntry sample_entry_id)
open Flows (FlowRow)
open Reachability (ModeledConfigurationFact)

def FactRelation.text : FactRelation → String
  | .source => "source"
  | .sink => "sink"
  | .flowsTo => "flows_to"
  | .guards => "guards"
  | .bounds => "bounds"
  | .releases => "releases"

def ConfigKind.text : ConfigKind → String
  | .requestLimit => "request_limit"
  | .timeout => "timeout"
  | .capacity => "capacity"
  | .featureState => "feature_state"

/-- What a fact says, whether or not its constructor admits it. -/
structure FactValues where
  factId : String
  kind : StaticFactKind
  locationRef : String
  relation : FactRelation
  valueRef : Option String
  normalizedValue : Option String
  deriving DecidableEq

def FactValues.toDict (fact : FactValues) : PlainJson :=
  .obj [("fact_id", .str fact.factId), ("kind", .str fact.kind.text),
    ("location_ref", .str fact.locationRef), ("relation", .str fact.relation.text),
    ("value_ref", optionalText fact.valueRef),
    ("normalized_value", optionalText fact.normalizedValue)]

def StaticFact.values (fact : StaticFact) : FactValues :=
  ⟨fact.factId, fact.kind, fact.locationRef, fact.relation, fact.valueRef, fact.normalizedValue⟩

def CfgSummary.toDict (summary : CfgSummary) : PlainJson :=
  .obj [("path_ids", .arr (summary.pathIds.map .str)), ("phases", .arr (summary.phases.map .str)),
    ("branch_facts", .arr (summary.branchFacts.map .str))]

def RegistrationEvidence.toDict (registration : RegistrationEvidence) : PlainJson :=
  .obj [("kind", .str registration.kind.text), ("location_ref", .str registration.locationRef)]

def configValueDict : String ⊕ Int → PlainJson
  | .inl text => .str text
  | .inr number => .int number

def ConfigFact.toDict (fact : ConfigFact) : PlainJson :=
  .obj [("kind", .str fact.kind.text), ("normalized_value", configValueDict fact.normalizedValue),
    ("source_location_ref", .str fact.sourceLocationRef), ("config_id", .str fact.configId)]

/-- The record of a slice, from the records of its parts. -/
def sliceDict (entryId growthId : String) (sourceExcerpts : List AttestedExcerpt)
    (facts : List FactValues) (cfgSummary : CfgSummary)
    (registrations : List RegistrationEvidence) (configFacts : List ConfigFact) : PlainJson :=
  .obj [("entry_id", .str entryId), ("growth_id", .str growthId),
    ("source_excerpts", .arr (sourceExcerpts.map AttestedExcerpt.toDict)),
    ("static_facts", .arr (facts.map FactValues.toDict)), ("cfg_summary", cfgSummary.toDict),
    ("registration_facts", .arr (registrations.map RegistrationEvidence.toDict)),
    ("config_facts", .arr (configFacts.map ConfigFact.toDict))]

def maxSourceBytes : Nat := 65536

def maxCanonicalPayloadBytes : Nat := 131072

def excerptIds (sourceExcerpts : List AttestedExcerpt) : List String :=
  sourceExcerpts.map AttestedExcerpt.excerptId

def sourceBytes (sourceExcerpts : List AttestedExcerpt) : Nat :=
  (sourceExcerpts.map fun excerpt => (Text.utf8 excerpt.content.toList).length).sum

/-- What the constructor of a payload asks of its parts. -/
structure PayloadShape (entryId growthId : String) (sourceExcerpts : List AttestedExcerpt)
    (evidence : GrowthStaticEvidence) : Prop where
  excerptsBounded : sourceExcerpts.length ≤ 64
  factsBounded : evidence.staticFacts.length ≤ 256
  registrationsBounded : evidence.registrationFacts.length ≤ 64
  configBounded : evidence.configFacts.length ≤ 64
  entryIdValid : validId entryId "entry:" = true
  growthIdValid : validId growthId "growth:" = true
  excerptsRequired : sourceExcerpts ≠ []
  excerptsDistinct : (excerptIds sourceExcerpts).Nodup
  factsDistinct : (evidence.staticFacts.map StaticFact.factId).Nodup
  locationsKnown : ∀ fact ∈ evidence.staticFacts, fact.locationRef ∈ excerptIds sourceExcerpts
  registrationsKnown : ∀ registration ∈ evidence.registrationFacts,
    registration.locationRef ∈ excerptIds sourceExcerpts
  configKnown : ∀ fact ∈ evidence.configFacts,
    fact.sourceLocationRef ∈ excerptIds sourceExcerpts ∨ fact.sourceLocationRef = fact.configId
  branchesKnown : ∀ id ∈ evidence.cfgSummary.branchFacts,
    id ∈ evidence.staticFacts.map StaticFact.factId
  valueRefsKnown : ∀ fact ∈ evidence.staticFacts, ∀ reference ∈ fact.valueRef,
    reference ∈ evidence.staticFacts.map StaticFact.factId
  sourceBounded : sourceBytes sourceExcerpts ≤ maxSourceBytes
  payloadBounded : (canonicalJson (sliceDict entryId growthId sourceExcerpts
    (evidence.staticFacts.map StaticFact.values) evidence.cfgSummary evidence.registrationFacts
      evidence.configFacts)).length ≤ maxCanonicalPayloadBytes

instance (entryId growthId : String) (sourceExcerpts : List AttestedExcerpt)
    (evidence : GrowthStaticEvidence) :
    Decidable (PayloadShape entryId growthId sourceExcerpts evidence) := decidable_of_iff
    (((sourceExcerpts.length ≤ 64 ∧ evidence.staticFacts.length ≤ 256 ∧
        evidence.registrationFacts.length ≤ 64 ∧ evidence.configFacts.length ≤ 64) ∧
      validId entryId "entry:" = true ∧ validId growthId "growth:" = true ∧ sourceExcerpts ≠ [] ∧
        (excerptIds sourceExcerpts).Nodup ∧ (evidence.staticFacts.map StaticFact.factId).Nodup) ∧
      ((∀ fact ∈ evidence.staticFacts, fact.locationRef ∈ excerptIds sourceExcerpts) ∧
        (∀ registration ∈ evidence.registrationFacts,
          registration.locationRef ∈ excerptIds sourceExcerpts) ∧
        (∀ fact ∈ evidence.configFacts, fact.sourceLocationRef ∈ excerptIds sourceExcerpts ∨
          fact.sourceLocationRef = fact.configId) ∧
        (∀ id ∈ evidence.cfgSummary.branchFacts, id ∈ evidence.staticFacts.map StaticFact.factId) ∧
        ∀ fact ∈ evidence.staticFacts, ∀ reference ∈ fact.valueRef,
          reference ∈ evidence.staticFacts.map StaticFact.factId) ∧
      sourceBytes sourceExcerpts ≤ maxSourceBytes ∧
      (canonicalJson (sliceDict entryId growthId sourceExcerpts
        (evidence.staticFacts.map StaticFact.values) evidence.cfgSummary
          evidence.registrationFacts evidence.configFacts)).length ≤ maxCanonicalPayloadBytes)
    ⟨fun ⟨⟨⟨a, b, c, d⟩, e, f, g, h, i⟩, ⟨j, k, l, m, n⟩, o, p⟩ =>
        ⟨a, b, c, d, e, f, g, h, i, j, k, l, m, n, o, p⟩,
      fun ⟨a, b, c, d, e, f, g, h, i, j, k, l, m, n, o, p⟩ =>
        ⟨⟨⟨a, b, c, d⟩, e, f, g, h, i⟩, ⟨j, k, l, m, n⟩, o, p⟩⟩

/-- The payload of a slice with its attested excerpts and its summary. -/
structure SlicePayload where
  payload : BoundedSlicePayload
  sourceExcerpts : List AttestedExcerpt
  evidence : GrowthStaticEvidence
  shape : PayloadShape payload.entryId payload.growthId sourceExcerpts evidence
  factsSame : payload.staticFacts = evidence.staticFacts

def AttestedExcerpt.reference (excerpt : AttestedExcerpt) : SourceExcerpt :=
  ⟨excerpt.excerptId, excerpt.excerptIdValid⟩

theorem reference_ids (sourceExcerpts : List AttestedExcerpt) :
    (sourceExcerpts.map AttestedExcerpt.reference).map SourceExcerpt.excerptId =
      excerptIds sourceExcerpts := by
  rw [List.map_map]
  rfl

def SlicePayload.create (entryId growthId : String) (sourceExcerpts : List AttestedExcerpt)
    (evidence : GrowthStaticEvidence) : Checked SlicePayload :=
  if shape : PayloadShape entryId growthId sourceExcerpts evidence then
    .ok {
      payload := {
        entryId, growthId
        sourceExcerpts := sourceExcerpts.map AttestedExcerpt.reference
        staticFacts := evidence.staticFacts
        entryIdValid := shape.entryIdValid
        growthIdValid := shape.growthIdValid
        excerptsRequired := by simpa using shape.excerptsRequired
        excerptsBounded := by simpa using shape.excerptsBounded
        factsBounded := shape.factsBounded
        excerptsDistinct := by rw [reference_ids]; exact shape.excerptsDistinct
        factsDistinct := shape.factsDistinct
        locationsKnown := by rw [reference_ids]; exact shape.locationsKnown
        valueRefsKnown := shape.valueRefsKnown }
      sourceExcerpts, evidence, shape
      factsSame := rfl }
  else .error sliceInvalid

theorem payload_created_iff (entryId growthId : String) (sourceExcerpts : List AttestedExcerpt)
    (evidence : GrowthStaticEvidence) :
    (∃ payload, SlicePayload.create entryId growthId sourceExcerpts evidence = .ok payload) ↔
      PayloadShape entryId growthId sourceExcerpts evidence := by
  unfold SlicePayload.create
  split
  · rename_i shape
    exact iff_of_true ⟨_, rfl⟩ shape
  · rename_i shapeless
    exact iff_of_false (fun found => by obtain ⟨_, same⟩ := found; cases same) shapeless

section

variable (entry : EntryFact) (candidate : GrowthCandidate) (lower : String → String)

def targetFactId (row : FlowRow) : String :=
  stableIdentifier "fact" [("entry_id", .str entry.entryId), ("growth_id", .str candidate.growthId),
    ("flow_fact_id", .str (flowFactId entry candidate row)),
    ("attacker_target", .str row.attackerTarget)]

def semanticFactId (semantic : StaticFactKind × String × FactRelation) : String :=
  stableIdentifier "fact" [("entry_id", .str entry.entryId), ("growth_id", .str candidate.growthId),
    ("kind", .str semantic.1.text), ("value", .str semantic.2.1)]

def flowValues (location : String) (row : FlowRow) : FactValues :=
  ⟨flowFactId entry candidate row, .flow, location, .flowsTo, none,
    some (driverOrigin entry row.attackerSource)⟩

def targetValues (location : String) (row : FlowRow) : FactValues :=
  ⟨targetFactId entry candidate row, .attackerTarget, location, .source,
    some (flowFactId entry candidate row), some row.attackerTarget⟩

def sinkValues (location : String) (primarySource : Option String) (evidenceId : String) :
    FactValues := ⟨evidenceId, candidate.kind.factKind, location, .sink, primarySource, none⟩

def semanticFactValues (location : String) (valueRef : Option String)
    (semantic : StaticFactKind × String × FactRelation) : FactValues :=
  ⟨semanticFactId entry candidate semantic, semantic.1, location, semantic.2.2, valueRef,
    some semantic.2.1⟩

def driverSemantics (flows : List FlowRow) : List (StaticFactKind × String × FactRelation) :=
  (sortedSet (flows.map fun row => driverOrigin entry row.attackerSource)).map fun origin =>
    (.driverOrigin, origin, .source)

def primarySource (flows : List FlowRow) : Option String :=
  flows.head?.map (flowFactId entry candidate)

/-- The facts of the selected rows and the candidate, family by family. -/
def familyValues (growthLocation handlerLocation : String) (flows : List FlowRow)
    (configurationFacts : List ModeledConfigurationFact) : List FactValues :=
  flows.map (flowValues entry candidate handlerLocation) ++
    flows.map (targetValues entry candidate handlerLocation) ++
    candidate.evidenceIds.values.map (sinkValues candidate growthLocation
      (primarySource entry candidate flows)) ++
    (driverSemantics entry flows).map (semanticFactValues entry candidate handlerLocation none) ++
    (semanticValues entry candidate lower flows configurationFacts).map
      (semanticFactValues entry candidate growthLocation (primarySource entry candidate flows))

def adaptedValues (growthLocation handlerLocation : String) (flows : List FlowRow)
    (configurationFacts : List ModeledConfigurationFact) : List FactValues :=
  (familyValues entry candidate lower growthLocation handlerLocation flows
    configurationFacts).insertionSort fun left right => left.factId ≤ right.factId

def branchIds (flows : List FlowRow) (configurationFacts : List ModeledConfigurationFact) :
    List String := (driverSemantics entry flows).map (semanticFactId entry candidate) ++
    (flows.map (targetFactId entry candidate) ++
      (semanticValues entry candidate lower flows configurationFacts).map
        (semanticFactId entry candidate))

theorem created_values (factId : String) (kind : StaticFactKind) (location : String)
    (relation : FactRelation) (valueRef value : Option String)
    (factIdValid : validId factId "fact:" = true)
    (locationValid : validId location "excerpt:" = true)
    (valueRefValid : ∀ reference ∈ valueRef, validId reference "fact:" = true)
    (valueValid : validNormalizedValue kind value = true) :
    ∃ fact, StaticFact.create factId kind location relation valueRef value = .ok fact ∧
      fact.values = ⟨factId, kind, location, relation, valueRef, value⟩ := by
  rw [StaticFact.create, dif_pos factIdValid, dif_pos locationValid, dif_pos valueRefValid,
    dif_pos valueValid]
  exact ⟨_, rfl, rfl⟩

theorem facts_created {α : Type} (items : List α) (step : α → Checked StaticFact)
    (said : α → FactValues)
    (each : ∀ item ∈ items, ∃ fact, step item = .ok fact ∧ fact.values = said item) :
    ∃ facts, items.mapM step = .ok facts ∧ facts.map StaticFact.values = items.map said := by
  induction items with
  | nil => exact ⟨[], rfl, rfl⟩
  | cons item items ih =>
    obtain ⟨fact, own, same⟩ := each item (.head _)
    obtain ⟨facts, run, rest⟩ := ih fun other member => each other (.tail _ member)
    refine ⟨fact :: facts, ?_, ?_⟩
    · rw [List.mapM_cons, own, run]
      rfl
    · rw [List.map_cons, List.map_cons, same, rest]

theorem values_ids (facts : List StaticFact) (said : List FactValues)
    (same : facts.map StaticFact.values = said) :
    facts.map StaticFact.factId = said.map FactValues.factId := by
  rw [← same, List.map_map]
  rfl

theorem growth_fact_valued (kind : GrowthKind) :
    validNormalizedValue kind.factKind none = true := by
  cases kind <;> decide

theorem target_values_valid (row : FlowRow) (selected : selectsRow entry candidate row = true) :
    validNormalizedValue .attackerTarget (some row.attackerTarget) = true := by
  simp only [selectsRow, Bool.and_eq_true] at selected
  obtain ⟨role, -, same⟩ := List.mem_map.mp (List.contains_iff_mem.mp selected.1.1.1.2)
  rw [← same]
  cases role <;> decide

theorem zip_said (flows : List FlowRow) (facts : List StaticFact) (said : FlowRow → FactValues)
    (same : facts.map StaticFact.values = flows.map said) :
    ∀ pair ∈ flows.zip facts, pair.2.values = said pair.1 ∧ pair.1 ∈ flows := by
  induction flows generalizing facts with
  | nil => exact fun pair member => absurd member List.not_mem_nil
  | cons row flows ih =>
    cases facts with
    | nil => cases same
    | cons fact facts =>
      rw [List.map_cons, List.map_cons, List.cons.injEq] at same
      intro pair member
      rw [List.zip_cons_cons, List.mem_cons] at member
      rcases member with rfl | later
      · exact ⟨same.1, .head _⟩
      · have own := ih facts same.2 pair later
        exact ⟨own.1, .tail _ own.2⟩

theorem ok_bind {α β : Type} (value : α) (next : α → Checked β) :
    ((Except.ok value : Checked α) >>= next) = next value := rfl

section

variable (sourceExcerpts : List AttestedExcerpt) (flowRows : List FlowRow)
  (configurationFacts : List ModeledConfigurationFact)

/-- The excerpts that cover the sites of a candidate and its entry. -/
structure Sites (growth registration handler : AttestedExcerpt) : Prop where
  growthFound : coveringExcerpt sourceExcerpts candidate.site.file.1 candidate.site.startLine.1
    "CANDIDATE_LOCATION_UNATTESTED" = .ok growth
  registrationFound : coveringExcerpt sourceExcerpts entry.registration.file.1
    entry.registration.startLine.1 "REGISTRATION_LOCATION_UNATTESTED" = .ok registration
  handlerFound : coveringExcerpt sourceExcerpts entry.handler.file.1 entry.handler.startLine.1
    "HANDLER_LOCATION_UNATTESTED" = .ok handler

theorem adapted_run (growth registration handler : AttestedExcerpt)
    (some_ : sourceExcerpts ≠ []) (distinct : (excerptIds sourceExcerpts).Nodup)
    (short : ∀ id ∈ candidate.evidenceIds.values, validId id "fact:" = true)
    (sites : Sites entry candidate sourceExcerpts growth registration handler) :
    ∃ facts : List StaticFact,
      facts.map StaticFact.values = adaptedValues entry candidate lower growth.excerptId
        handler.excerptId (matchedFlows entry candidate flowRows) configurationFacts ∧
      adaptGrowthStaticEvidence entry candidate lower sourceExcerpts flowRows configurationFacts =
        do
          let configFacts ← configurationFacts.mapM (configFact lower sourceExcerpts)
          let cfgSummary ← CfgSummary.create
            ((matchedFlows entry candidate flowRows).map (pathId entry candidate)).eraseDups
            (evidencePhases entry)
            (branchIds entry candidate lower (matchedFlows entry candidate flowRows)
              configurationFacts)
          return {
            staticFacts := facts, cfgSummary
            registrationFacts := [⟨entry.framework, registration.excerptId⟩]
            configFacts
            coverageStatus := candidate.coverageStatus
            coverageNotes := candidate.coverageNotes } := by
  have chosen : ∀ row ∈ matchedFlows entry candidate flowRows,
      selectsRow entry candidate row = true :=
    fun row member => ((mem_matched_flows entry candidate flowRows row).mp member).2
  unfold adaptGrowthStaticEvidence
  generalize matchedFlows entry candidate flowRows = flows at chosen ⊢
  obtain ⟨sources, sourceRun, sourceSaid⟩ := facts_created flows
    (sourceFact entry candidate handler.excerptId) (flowValues entry candidate handler.excerptId)
    fun row _ => created_values _ _ _ _ _ _ (fact_id_valid _) handler.excerptIdValid (by simp)
      (flow_origin_valid entry _)
  have pairs := zip_said flows sources _ sourceSaid
  obtain ⟨targets, targetRun, targetSaid⟩ := facts_created (flows.zip sources)
    (targetFact entry candidate handler.excerptId)
    (fun pair => targetValues entry candidate handler.excerptId pair.1) fun pair member => by
      have own := pairs pair member
      have id : pair.2.factId = flowFactId entry candidate pair.1 :=
        congrArg FactValues.factId own.1
      unfold targetFact
      rw [id]
      refine created_values _ _ _ _ _ _ (fact_id_valid _) handler.excerptIdValid ?_
        (target_values_valid entry candidate pair.1 (chosen _ own.2))
      rintro reference ⟨rfl⟩
      exact fact_id_valid _
  have primary : sources.head?.map StaticFact.factId = primarySource entry candidate flows := by
    have ids := congrArg List.head? (values_ids sources _ sourceSaid)
    rw [List.head?_map, List.map_map, List.head?_map] at ids
    exact ids
  have primaryValid : ∀ reference ∈ primarySource entry candidate flows,
      validId reference "fact:" = true := by
    intro reference found
    obtain ⟨row, -, same⟩ := Option.map_eq_some_iff.mp found
    exact same ▸ fact_id_valid _
  obtain ⟨sinks, sinkRun, sinkSaid⟩ := facts_created candidate.evidenceIds.values
    (fun evidenceId => StaticFact.create evidenceId candidate.kind.factKind growth.excerptId .sink
      (primarySource entry candidate flows) none)
    (sinkValues candidate growth.excerptId (primarySource entry candidate flows))
    fun id member => created_values _ _ _ _ _ _ (short id member) growth.excerptIdValid
      primaryValid (growth_fact_valued candidate.kind)
  obtain ⟨drivers, driverRun, driverSaid⟩ := facts_created (driverSemantics entry flows)
    (semanticFact entry candidate handler.excerptId none)
    (semanticFactValues entry candidate handler.excerptId none) fun semantic member => by
      obtain ⟨origin, known, rfl⟩ := List.mem_map.mp member
      obtain ⟨row, -, rfl⟩ := List.mem_map.mp ((mem_sortedSet _ _).mp known)
      exact created_values _ _ _ _ _ _ (fact_id_valid _) handler.excerptIdValid (by simp)
        (driver_origin_valid entry _)
  obtain ⟨semantics, semanticRun, semanticSaid⟩ := facts_created
    (semanticValues entry candidate lower flows configurationFacts)
    (semanticFact entry candidate growth.excerptId (primarySource entry candidate flows))
    (semanticFactValues entry candidate growth.excerptId (primarySource entry candidate flows))
    fun semantic member => created_values _ _ _ _ _ _ (fact_id_valid _) growth.excerptIdValid
      primaryValid (semantic_values_valid entry candidate lower _ _ semantic member)
  have targetsWhole : targets.map StaticFact.values =
      flows.map (targetValues entry candidate handler.excerptId) := by
    have lengths : flows.length ≤ sources.length := by
      have same := congrArg List.length sourceSaid
      rw [List.length_map, List.length_map] at same
      exact same.ge
    calc
      _ = (flows.zip sources).map fun pair =>
          targetValues entry candidate handler.excerptId pair.1 := targetSaid
      _ = ((flows.zip sources).map Prod.fst).map
          (targetValues entry candidate handler.excerptId) := by rw [List.map_map]; rfl
      _ = _ := by rw [List.map_fst_zip lengths]
  refine ⟨(sources ++ targets ++ sinks ++ drivers ++ semantics).insertionSort
    fun left right => left.factId ≤ right.factId, ?_, ?_⟩
  · rw [adaptedValues, familyValues, ← sourceSaid, ← targetsWhole, ← sinkSaid, ← driverSaid,
      ← semanticSaid, ← List.map_append, ← List.map_append, ← List.map_append, ← List.map_append]
    exact List.map_insertionSort _ _ _ _ fun _ _ _ _ => Iff.rfl
  · have ids : drivers.map StaticFact.factId ++ (targets ++ semantics).map StaticFact.factId =
        branchIds entry candidate lower flows configurationFacts := by
      rw [List.map_append, values_ids drivers _ driverSaid, values_ids targets _ targetsWhole,
        values_ids semantics _ semanticSaid, List.map_map, List.map_map, List.map_map]
      rfl
    have listed : (sourceExcerpts.map AttestedExcerpt.excerptId).Nodup := distinct
    rw [(require_ok _ _ ()).mpr (decide_eq_true some_), ok_bind,
      (require_ok _ _ ()).mpr (decide_eq_true listed), ok_bind, sites.growthFound, ok_bind,
      sites.registrationFound, ok_bind, sites.handlerFound, ok_bind]
    dsimp only
    rw [sourceRun, ok_bind, targetRun, ok_bind, primary, sinkRun, ok_bind]
    rw [show ((sortedSet (flows.map fun row => driverOrigin entry row.attackerSource)).map
      fun origin => (StaticFactKind.driverOrigin, origin, FactRelation.source)) =
        driverSemantics entry flows from rfl, driverRun, ok_bind, semanticRun, ok_bind, ids]

end

def flowIdentity (row : FlowRow) : Members Empty :=
  [("entry_id", .str entry.entryId), ("growth_id", .str candidate.growthId),
    ("target", .str row.attackerTarget), ("source", .str row.attackerSource),
    ("sink", .str row.attackerSink), ("call_path", .str row.callPath)]

def targetIdentity (row : FlowRow) : Members Empty :=
  [("entry_id", .str entry.entryId), ("growth_id", .str candidate.growthId),
    ("flow_fact_id", .str (flowFactId entry candidate row)),
    ("attacker_target", .str row.attackerTarget)]

def semanticIdentity (semantic : StaticFactKind × String × FactRelation) : Members Empty :=
  [("entry_id", .str entry.entryId), ("growth_id", .str candidate.growthId),
    ("kind", .str semantic.1.text), ("value", .str semantic.2.1)]

def pathIdentity (row : FlowRow) : Members Empty :=
  [("entry_id", .str entry.entryId), ("growth_id", .str candidate.growthId),
    ("call_path", .str row.callPath), ("phase_sequence", .str row.phaseSequence)]

/-- What the identity of a flow fact takes from its row. -/
def flowKey (row : FlowRow) : String × String × String × String :=
  (row.attackerTarget, row.attackerSource, row.attackerSink, row.callPath)

def pathKey (row : FlowRow) : String × String := (row.callPath, row.phaseSequence)

def semanticsOf (flows : List FlowRow) (configurationFacts : List ModeledConfigurationFact) :
    List (StaticFactKind × String × FactRelation) :=
  driverSemantics entry flows ++ semanticValues entry candidate lower flows configurationFacts

/-- The identities that the facts of the rows and the semantic facts are named after. -/
def factIdentities (flows : List FlowRow) (configurationFacts : List ModeledConfigurationFact) :
    List (Members Empty) :=
  flows.map (flowIdentity entry candidate) ++ (flows.map (targetIdentity entry candidate) ++
    (semanticsOf entry candidate lower flows configurationFacts).map
      (semanticIdentity entry candidate))

/-- The digests of the identities of a slice do not collide. -/
structure DigestsApart (flows : List FlowRow)
    (configurationFacts : List ModeledConfigurationFact) : Prop where
  facts : ∀ left ∈ factIdentities entry candidate lower flows configurationFacts,
    ∀ right ∈ factIdentities entry candidate lower flows configurationFacts,
      stableIdentifier "fact" left = stableIdentifier "fact" right → left = right
  paths : ∀ left ∈ flows, ∀ right ∈ flows,
    pathId entry candidate left = pathId entry candidate right →
      pathIdentity entry candidate left = pathIdentity entry candidate right

theorem flow_identity_iff (left right : FlowRow) :
    flowIdentity entry candidate left = flowIdentity entry candidate right ↔
      flowKey left = flowKey right := by
  simp [flowIdentity, flowKey]

theorem path_identity_iff (left right : FlowRow) :
    pathIdentity entry candidate left = pathIdentity entry candidate right ↔
      pathKey left = pathKey right := by
  simp [pathIdentity, pathKey]

section

variable (flows : List FlowRow) (configurationFacts : List ModeledConfigurationFact)

theorem semantic_kind_texts : (semanticValues entry candidate lower flows configurationFacts).map
        (fun semantic => semantic.1.text) =
      ["value_space", "escape_scope", "retention", "amplification", "loop_multiplicity",
        "field_identity", "materialization_phase", "known_limit_location"] := rfl

theorem semantics_distinct : ((semanticsOf entry candidate lower flows configurationFacts).map
      (semanticIdentity entry candidate)).Nodup := by
  let key : StaticFactKind × String × FactRelation → String × String :=
    fun semantic => (semantic.1.text, semantic.2.1)
  let named : String × String → Members Empty := fun pair =>
    [("entry_id", .str entry.entryId), ("growth_id", .str candidate.growthId),
      ("kind", .str pair.1), ("value", .str pair.2)]
  have injective : Function.Injective named := by
    intro left right same
    simpa [named, Prod.ext_iff] using same
  have texts := semantic_kind_texts entry candidate lower flows configurationFacts
  have semantics :
      ((semanticValues entry candidate lower flows configurationFacts).map key).Nodup := by
    apply List.Nodup.of_map Prod.fst
    rw [List.map_map]
    change ((semanticValues entry candidate lower flows configurationFacts).map
      fun semantic => semantic.1.text).Nodup
    rw [texts]
    decide
  have drivers : ((driverSemantics entry flows).map key).Nodup := by
    rw [driverSemantics, List.map_map]
    apply List.Nodup.map _ (sortedSet_nodup _)
    intro left right same
    exact congrArg Prod.snd same
  have apart : ((driverSemantics entry flows).map key).Disjoint
      ((semanticValues entry candidate lower flows configurationFacts).map key) := by
    intro pair driver semantic
    obtain ⟨held, member, own⟩ := List.mem_map.mp driver
    obtain ⟨origin, -, rfl⟩ := List.mem_map.mp member
    obtain ⟨other, inside, same⟩ := List.mem_map.mp semantic
    have listed : "driver_origin" ∈ (semanticValues entry candidate lower flows
        configurationFacts).map fun semantic => semantic.1.text :=
      List.mem_map.mpr ⟨other, inside, congrArg Prod.fst (same.trans own.symm)⟩
    rw [texts] at listed
    exact absurd listed (by decide)
  have whole : (((semanticsOf entry candidate lower flows configurationFacts).map key).map
      named).Nodup := by
    apply List.Nodup.map injective
    rw [semanticsOf, List.map_append]
    exact drivers.append semantics apart
  rw [List.map_map] at whole
  exact whole

/-- Facts of rows and semantic facts are named apart; two rows are where their keys are. -/
theorem identities_distinct_iff
    (apart : DigestsApart entry candidate lower flows configurationFacts) :
    (factIdentities entry candidate lower flows configurationFacts).Nodup ↔
      (flows.map flowKey).Nodup := by
  let keys : Members Empty → List String := List.map Prod.fst
  have flowKeys : ∀ identity ∈ flows.map (flowIdentity entry candidate),
      keys identity = ["entry_id", "growth_id", "target", "source", "sink", "call_path"] := by
    intro identity member
    obtain ⟨row, -, rfl⟩ := List.mem_map.mp member
    rfl
  have targetKeys : ∀ identity ∈ flows.map (targetIdentity entry candidate),
      keys identity = ["entry_id", "growth_id", "flow_fact_id", "attacker_target"] := by
    intro identity member
    obtain ⟨row, -, rfl⟩ := List.mem_map.mp member
    rfl
  have semanticKeys : ∀ identity ∈ (semanticsOf entry candidate lower flows
      configurationFacts).map (semanticIdentity entry candidate),
      keys identity = ["entry_id", "growth_id", "kind", "value"] := by
    intro identity member
    obtain ⟨semantic, -, rfl⟩ := List.mem_map.mp member
    rfl
  have named : ∀ left ∈ flows, ∀ right ∈ flows,
      flowFactId entry candidate left = flowFactId entry candidate right →
        flowKey left = flowKey right := by
    intro left one right other same
    have inside : ∀ row ∈ flows, flowIdentity entry candidate row ∈
        factIdentities entry candidate lower flows configurationFacts :=
      fun row member => List.mem_append_left _ (List.mem_map_of_mem member)
    exact (flow_identity_iff entry candidate left right).mp
      (apart.facts _ (inside left one) _ (inside right other) same)
  constructor
  · intro distinct
    have sources := (List.nodup_append.mp distinct).1
    apply List.Nodup.of_map (fun key : String × String × String × String =>
      ([("entry_id", .str entry.entryId), ("growth_id", .str candidate.growthId),
        ("target", .str key.1), ("source", .str key.2.1), ("sink", .str key.2.2.1),
        ("call_path", .str key.2.2.2)] : Members Empty))
    rw [List.map_map]
    exact sources
  · intro distinct
    have rows := List.inj_on_of_nodup_map distinct
    have single := distinct.of_map
    refine List.Nodup.append ?_ (List.Nodup.append ?_ ?_ ?_) ?_
    · apply List.Nodup.map_on _ single
      intro left one right other same
      exact rows one other ((flow_identity_iff entry candidate left right).mp same)
    · apply List.Nodup.map_on _ single
      intro left one right other same
      simp only [targetIdentity, List.cons.injEq, Prod.mk.injEq, true_and, and_true,
        Json.str.injEq] at same
      exact rows one other (named left one right other same.1)
    · exact semantics_distinct entry candidate lower flows configurationFacts
    · intro identity target semantic
      have both := (targetKeys identity target).symm.trans (semanticKeys identity semantic)
      exact absurd both (by decide)
    · intro identity flow rest
      have own := flowKeys identity flow
      rcases List.mem_append.mp rest with target | semantic
      · exact absurd (own.symm.trans (targetKeys identity target)) (by decide)
      · exact absurd (own.symm.trans (semanticKeys identity semantic)) (by decide)

end

section

variable (growthLocation handlerLocation : String) (flows : List FlowRow)
  (configurationFacts : List ModeledConfigurationFact)

def derivedIds : List String :=
  (factIdentities entry candidate lower flows configurationFacts).map (stableIdentifier "fact")

theorem family_ids : ((familyValues entry candidate lower growthLocation handlerLocation flows
      configurationFacts).map FactValues.factId).Perm
      (derivedIds entry candidate lower flows configurationFacts ++
        candidate.evidenceIds.values) := by
  let sources := flows.map (flowFactId entry candidate)
  let targets := flows.map (targetFactId entry candidate)
  let semantics := (semanticsOf entry candidate lower flows configurationFacts).map
    (semanticFactId entry candidate)
  have family : (familyValues entry candidate lower growthLocation handlerLocation flows
      configurationFacts).map FactValues.factId =
      (sources ++ targets) ++ (candidate.evidenceIds.values ++ semantics) := by
    have evidence : candidate.evidenceIds.values.map (FactValues.factId ∘
        sinkValues candidate growthLocation (primarySource entry candidate flows)) =
        candidate.evidenceIds.values := List.map_id _
    simp only [familyValues, List.map_append, List.map_map, evidence, semantics, semanticsOf,
      List.append_assoc]
    rfl
  have derived : derivedIds entry candidate lower flows configurationFacts =
      (sources ++ targets) ++ semantics := by
    simp only [derivedIds, factIdentities, List.map_append, List.map_map, List.append_assoc]
    rfl
  rw [family, derived, List.append_assoc (sources ++ targets)]
  exact List.Perm.append_left _ List.perm_append_comm

theorem family_count : (familyValues entry candidate lower growthLocation handlerLocation flows
      configurationFacts).length = 2 * flows.length + candidate.evidenceIds.values.length +
        (driverSemantics entry flows).length + 8 := by
  have eight : (semanticValues entry candidate lower flows configurationFacts).length = 8 := rfl
  simp only [familyValues, List.length_append, List.length_map, eight]
  omega

section

variable (fact : FactValues)
  (member : fact ∈ familyValues entry candidate lower growthLocation handlerLocation flows
    configurationFacts)

include member

theorem family_located :
    fact.locationRef = growthLocation ∨ fact.locationRef = handlerLocation := by
  simp only [familyValues, List.mem_append, List.mem_map] at member
  rcases member with (((⟨row, -, rfl⟩ | ⟨row, -, rfl⟩) | ⟨id, -, rfl⟩) | ⟨semantic, -, rfl⟩) |
    ⟨semantic, -, rfl⟩
  · exact Or.inr rfl
  · exact Or.inr rfl
  · exact Or.inl rfl
  · exact Or.inr rfl
  · exact Or.inl rfl

theorem family_referring (reference : String) (refers : reference ∈ fact.valueRef) :
    ∃ row ∈ flows, flowFactId entry candidate row = reference := by
  have primary : ∀ id ∈ primarySource entry candidate flows,
      ∃ row ∈ flows, flowFactId entry candidate row = id := by
    intro id found
    obtain ⟨row, first, same⟩ := Option.map_eq_some_iff.mp found
    exact ⟨row, List.mem_of_head? first, same⟩
  simp only [familyValues, List.mem_append, List.mem_map] at member
  rcases member with (((⟨row, -, rfl⟩ | ⟨row, inside, rfl⟩) | ⟨id, -, rfl⟩) | ⟨semantic, -, rfl⟩) |
    ⟨semantic, -, rfl⟩
  · cases refers
  · exact ⟨row, inside, Option.some_inj.mp refers⟩
  · exact primary reference refers
  · cases refers
  · exact primary reference refers

end

theorem branch_derived (id : String)
    (member : id ∈ branchIds entry candidate lower flows configurationFacts) :
    id ∈ derivedIds entry candidate lower flows configurationFacts := by
  have targets : ∀ row ∈ flows, targetFactId entry candidate row ∈
      derivedIds entry candidate lower flows configurationFacts := by
    intro row inside
    apply List.mem_map.mpr
    exact ⟨targetIdentity entry candidate row, List.mem_append_right _
      (List.mem_append_left _ (List.mem_map_of_mem inside)), rfl⟩
  have semantics : ∀ semantic ∈ semanticsOf entry candidate lower flows configurationFacts,
      semanticFactId entry candidate semantic ∈
        derivedIds entry candidate lower flows configurationFacts := by
    intro semantic inside
    apply List.mem_map.mpr
    exact ⟨semanticIdentity entry candidate semantic, List.mem_append_right _
      (List.mem_append_right _ (List.mem_map_of_mem inside)), rfl⟩
  simp only [branchIds, List.mem_append, List.mem_map] at member
  rcases member with ⟨semantic, inside, rfl⟩ | ⟨row, inside, rfl⟩ | ⟨semantic, inside, rfl⟩
  · exact semantics semantic (List.mem_append_left _ inside)
  · exact targets row inside
  · exact semantics semantic (List.mem_append_right _ inside)

/-- The identifiers are distinct where the rows are and no evidence is named after a fact. -/
theorem ids_distinct_iff (apart : DigestsApart entry candidate lower flows configurationFacts) :
    ((familyValues entry candidate lower growthLocation handlerLocation flows
        configurationFacts).map FactValues.factId).Nodup ↔
      (flows.map flowKey).Nodup ∧ ∀ id ∈ candidate.evidenceIds.values,
        id ∉ derivedIds entry candidate lower flows configurationFacts := by
  have evidence : candidate.evidenceIds.values.Nodup := candidate.evidenceIds.ordered.nodup
  have digests : (derivedIds entry candidate lower flows configurationFacts).Nodup ↔
      (factIdentities entry candidate lower flows configurationFacts).Nodup :=
    ⟨List.Nodup.of_map _, List.Nodup.map_on apart.facts⟩
  rw [(family_ids entry candidate lower growthLocation handlerLocation flows
    configurationFacts).nodup_iff, ← identities_distinct_iff entry candidate lower flows
    configurationFacts apart, ← digests]
  constructor
  · intro distinct
    refine ⟨distinct.of_append_left, ?_⟩
    intro id member inside
    exact (List.disjoint_of_nodup_append distinct) inside member
  · rintro ⟨distinct, fresh⟩
    exact distinct.append evidence fun id inside member => fresh id member inside

end

section

variable (sourceExcerpts : List AttestedExcerpt)

theorem covering_member (file : String) (line : Nat) (reason : String) (excerpt : AttestedExcerpt)
    (found : coveringExcerpt sourceExcerpts file line reason = .ok excerpt) :
    excerpt ∈ sourceExcerpts := by
  unfold coveringExcerpt at found
  dsimp only at found
  split at found
  · rename_i first rest sorted
    have inside : first ∈ first :: rest := .head _
    rw [← sorted, List.mem_insertionSort] at inside
    exact Except.ok.inj found ▸ List.mem_of_mem_filter inside
  · cases found

/-- Where the location of a configured value is kept: its excerpt, or its own identifier. -/
def configLocation (fact : ModeledConfigurationFact) : String :=
  if fact.sourceFile ≠ "" ∧ 1 ≤ fact.sourceLine then
    match coveringExcerpt sourceExcerpts fact.sourceFile fact.sourceLine
        "CONFIG_LOCATION_UNATTESTED" with
    | .ok excerpt => excerpt.excerptId
    | .error _ => ""
  else fact.configId

def configFactValues (fact : ModeledConfigurationFact) : ConfigFact :=
  ⟨configurationKind lower fact.key, configurationValue fact.value,
    configLocation sourceExcerpts fact, fact.configId⟩

def ConfigCovered (fact : ModeledConfigurationFact) : Prop :=
  fact.sourceFile ≠ "" → 1 ≤ fact.sourceLine → ∃ excerpt, coveringExcerpt sourceExcerpts
    fact.sourceFile fact.sourceLine "CONFIG_LOCATION_UNATTESTED" = .ok excerpt

/-- The integers that a configuration fact of a slice can hold. -/
def IntegerFits (fact : ModeledConfigurationFact) : Prop :=
  ∀ number, fact.value = some (.integer number) →
    -maxConfigInteger ≤ number ∧ number ≤ maxConfigInteger

variable (fact : ModeledConfigurationFact)

theorem config_id_valid : validId fact.configId "config:" = true :=
  stable_identifier_valid "config" "config:" (by decide) _ (by decide) (by decide)
    (List.all_eq_true.mp (by decide))

theorem config_location_shape (covered : ConfigCovered sourceExcerpts fact) :
    (∃ excerpt ∈ sourceExcerpts, configLocation sourceExcerpts fact = excerpt.excerptId) ∨
      configLocation sourceExcerpts fact = fact.configId := by
  unfold configLocation
  split
  · rename_i located
    obtain ⟨excerpt, found⟩ := covered located.1 located.2
    rw [found]
    exact Or.inl ⟨excerpt, covering_member sourceExcerpts _ _ _ excerpt found, rfl⟩
  · exact Or.inr rfl

theorem config_value_iff : (match configurationValue fact.value with
      | .inl text => configTexts.contains text
      | .inr number => decide (-maxConfigInteger ≤ number ∧ number ≤ maxConfigInteger)) = true ↔
      IntegerFits fact := by
  unfold configurationValue IntegerFits
  cases value : fact.value with
  | none => simp [configTexts]
  | some held =>
    cases held with
    | text text =>
      have inside : (if text ∈ configTexts then text else "unknown") ∈ configTexts := by
        split
        · assumption
        · decide
      exact iff_of_true (List.contains_iff_mem.mpr inside) (by rintro number ⟨⟩)
    | integer number => simp
    | flag flag => cases flag <;> simp [configTexts]

theorem config_created_iff (covered : ConfigCovered sourceExcerpts fact) (created : ConfigFact) :
    configFact lower sourceExcerpts fact = .ok created ↔
      IntegerFits fact ∧ configFactValues lower sourceExcerpts fact = created := by
  have located : configFact lower sourceExcerpts fact = ConfigFact.create
      (configurationKind lower fact.key) (configurationValue fact.value)
      (configLocation sourceExcerpts fact) fact.configId := by
    unfold configFact configLocation
    by_cases given : fact.sourceFile ≠ "" ∧ 1 ≤ fact.sourceLine
    · obtain ⟨excerpt, found⟩ := covered given.1 given.2
      rw [if_pos given, if_pos given, found]
      rfl
    · rw [if_neg given, if_neg given]
      rfl
  have shape : (validId (configLocation sourceExcerpts fact) "excerpt:" ||
      validId (configLocation sourceExcerpts fact) "config:") = true := by
    rcases config_location_shape sourceExcerpts fact covered with ⟨excerpt, -, same⟩ | same
    · rw [same, excerpt.excerptIdValid, Bool.true_or]
    · rw [same, config_id_valid, Bool.or_true]
  have own : (!Text.startsWith (configLocation sourceExcerpts fact) "config:" ||
      decide (configLocation sourceExcerpts fact = fact.configId)) = true := by
    rcases config_location_shape sourceExcerpts fact covered with ⟨excerpt, -, same⟩ | same
    · rw [same, Bool.or_eq_true]
      left
      have lead := excerpt.excerptIdValid
      simp only [validId, Bool.and_eq_true] at lead
      rw [Text.startsWith_other _ _ _ lead.1.2 (by decide)]
      rfl
    · rw [decide_eq_true same, Bool.or_true]
  rw [located]
  unfold ConfigFact.create
  simp only [bind_ok, require_ok, exists_const, shape, own, config_id_valid, true_and]
  exact and_congr (config_value_iff fact) ⟨Except.ok.inj, congrArg _⟩

end

section

variable (sourceExcerpts : List AttestedExcerpt) (flowRows : List FlowRow)
  (configurationFacts : List ModeledConfigurationFact)

theorem config_run_iff (covered : ∀ fact ∈ configurationFacts, ConfigCovered sourceExcerpts fact)
    (created : List ConfigFact) :
    configurationFacts.mapM (configFact lower sourceExcerpts) = .ok created ↔
      (∀ fact ∈ configurationFacts, IntegerFits fact) ∧
        configurationFacts.map (configFactValues lower sourceExcerpts) = created := by
  induction configurationFacts generalizing created with
  | nil =>
    constructor
    · intro run
      exact ⟨fun _ member => absurd member List.not_mem_nil, Except.ok.inj run⟩
    · rintro ⟨-, rfl⟩
      rfl
  | cons fact rest ih =>
    have own := config_created_iff lower sourceExcerpts fact (covered fact (.head _))
    have later := ih fun other member => covered other (.tail _ member)
    rw [List.mapM_cons, List.map_cons]
    simp only [bind_ok, own, later, List.forall_mem_cons]
    constructor
    · rintro ⟨_, ⟨fits, rfl⟩, _, ⟨all, rfl⟩, same⟩
      exact ⟨⟨fits, all⟩, Except.ok.inj same⟩
    · rintro ⟨⟨fits, all⟩, rfl⟩
      exact ⟨_, ⟨fits, rfl⟩, _, ⟨all, rfl⟩, rfl⟩

def cfgValues (flows : List FlowRow) : CfgSummary :=
  ⟨(flows.map (pathId entry candidate)).eraseDups, evidencePhases entry,
    branchIds entry candidate lower flows configurationFacts⟩

/-- The adapted evidence is returned with distinct identifiers, and a payload takes it. -/
def WellFormedSlice : Prop :=
  ∃ evidence, adaptGrowthStaticEvidence entry candidate lower sourceExcerpts flowRows
      configurationFacts = .ok evidence ∧ (evidence.staticFacts.map StaticFact.factId).Nodup ∧
    ∃ payload, SlicePayload.create entry.entryId candidate.growthId sourceExcerpts evidence =
      .ok payload

/-- Rows that differ where facts are named, names that are free, and counts and sizes in the
limits. -/
structure SliceFits (growth registration handler : AttestedExcerpt) : Prop where
  excerptsDistinct : (excerptIds sourceExcerpts).Nodup
  excerptsBounded : sourceExcerpts.length ≤ 64
  sourceBounded : sourceBytes sourceExcerpts ≤ maxSourceBytes
  evidenceShort : ∀ id ∈ candidate.evidenceIds.values, validId id "fact:" = true
  evidenceApart : ∀ id ∈ candidate.evidenceIds.values, id ∉ derivedIds entry candidate lower
    (matchedFlows entry candidate flowRows) configurationFacts
  rowsApart : ((matchedFlows entry candidate flowRows).map flowKey).Nodup
  factsBounded : 2 * (matchedFlows entry candidate flowRows).length +
    candidate.evidenceIds.values.length +
    (driverSemantics entry (matchedFlows entry candidate flowRows)).length + 8 ≤ 256
  pathsBounded : ((matchedFlows entry candidate flowRows).map pathKey).eraseDups.length ≤ 64
  configurationBounded : configurationFacts.length ≤ 64
  integersFit : ∀ fact ∈ configurationFacts, IntegerFits fact
  payloadBounded : (canonicalJson (sliceDict entry.entryId candidate.growthId sourceExcerpts
    (adaptedValues entry candidate lower growth.excerptId handler.excerptId
      (matchedFlows entry candidate flowRows) configurationFacts)
    (cfgValues entry candidate lower configurationFacts (matchedFlows entry candidate flowRows))
    [⟨entry.framework, registration.excerptId⟩]
    (configurationFacts.map (configFactValues lower sourceExcerpts)))).length ≤
      maxCanonicalPayloadBytes

theorem adapted_needs (evidence : GrowthStaticEvidence)
    (adapted : adaptGrowthStaticEvidence entry candidate lower sourceExcerpts flowRows
      configurationFacts = .ok evidence) : sourceExcerpts ≠ [] ∧ (excerptIds sourceExcerpts).Nodup ∧
      ∀ id ∈ candidate.evidenceIds.values, validId id "fact:" = true := by
  simp only [adaptGrowthStaticEvidence, bind_ok, require_ok, decide_eq_true_eq,
    exists_const] at adapted
  obtain ⟨some_, distinct, growthExcerpt, -, registrationExcerpt, -, handlerExcerpt, -,
    sourceFacts, -, targetFacts, -, sinkFacts, sinkRun, -⟩ := adapted
  refine ⟨some_, distinct, ?_⟩
  intro id member
  obtain ⟨fact, -, created⟩ := related_left (mapM_ok.mp sinkRun) id member
  have own := static_fact_created _ _ _ _ _ _ fact created
  exact own.1 ▸ fact.factIdValid

theorem paths_count
    (apart : DigestsApart entry candidate lower (matchedFlows entry candidate flowRows)
      configurationFacts) :
    ((matchedFlows entry candidate flowRows).map (pathId entry candidate)).eraseDups.length =
      ((matchedFlows entry candidate flowRows).map pathKey).eraseDups.length := by
  let named : String × String → String := fun key =>
    stableIdentifier "path" [("entry_id", .str entry.entryId),
      ("growth_id", .str candidate.growthId), ("call_path", .str key.1),
      ("phase_sequence", .str key.2)]
  have renamed := erase_dups_renamed named ((matchedFlows entry candidate flowRows).map pathKey)
    (by
      intro left one right other same
      obtain ⟨row, inside, rfl⟩ := List.mem_map.mp one
      obtain ⟨another, within, rfl⟩ := List.mem_map.mp other
      exact (path_identity_iff entry candidate row another).mp
        (apart.paths row inside another within same))
  rw [List.map_map] at renamed
  have lengths := congrArg List.length renamed
  rw [List.length_map] at lengths
  exact lengths

theorem evidence_phases_known : ∀ phase ∈ evidencePhases entry,
    phase ∈ ["before_handler", "in_handler", "streaming", "after_handler"] := by
  unfold evidencePhases
  cases entry.materializationPhase <;> decide

theorem evidence_phases_few : (evidencePhases entry).length ≤ 16 := by
  unfold evidencePhases
  cases entry.materializationPhase <;> decide

variable (growth registration handler : AttestedExcerpt)
  (sites : Sites entry candidate sourceExcerpts growth registration handler)
  (covered : ∀ fact ∈ configurationFacts, ConfigCovered sourceExcerpts fact)

def evidenceOf (facts : List StaticFact) : GrowthStaticEvidence where
  staticFacts := facts
  cfgSummary := cfgValues entry candidate lower configurationFacts
    (matchedFlows entry candidate flowRows)
  registrationFacts := [⟨entry.framework, registration.excerptId⟩]
  configFacts := configurationFacts.map (configFactValues lower sourceExcerpts)
  coverageStatus := candidate.coverageStatus
  coverageNotes := candidate.coverageNotes

include sites covered

theorem adapted_iff (some_ : sourceExcerpts ≠ []) (distinct : (excerptIds sourceExcerpts).Nodup)
    (short : ∀ id ∈ candidate.evidenceIds.values, validId id "fact:" = true) :
    ∃ facts : List StaticFact,
      facts.map StaticFact.values = adaptedValues entry candidate lower growth.excerptId
        handler.excerptId (matchedFlows entry candidate flowRows) configurationFacts ∧
      ∀ evidence, adaptGrowthStaticEvidence entry candidate lower sourceExcerpts flowRows
          configurationFacts = .ok evidence ↔ (∀ fact ∈ configurationFacts, IntegerFits fact) ∧
          (((matchedFlows entry candidate flowRows).map (pathId entry candidate)).eraseDups.length ≤
              64 ∧ (branchIds entry candidate lower (matchedFlows entry candidate flowRows)
              configurationFacts).length ≤ 256) ∧
          evidenceOf entry candidate lower sourceExcerpts flowRows configurationFacts registration
            facts = evidence := by
  obtain ⟨facts, said, run⟩ := adapted_run entry candidate lower sourceExcerpts flowRows
    configurationFacts growth registration handler some_ distinct short sites
  refine ⟨facts, said, ?_⟩
  intro evidence
  have summary := summary_created_iff
    ((matchedFlows entry candidate flowRows).map (pathId entry candidate)).eraseDups
    (evidencePhases entry)
    (branchIds entry candidate lower (matchedFlows entry candidate flowRows) configurationFacts)
  have pathsValid : ∀ id ∈ ((matchedFlows entry candidate flowRows).map
      (pathId entry candidate)).eraseDups, validId id "path:" = true := by
    intro id member
    obtain ⟨row, -, same⟩ := List.mem_map.mp (List.mem_eraseDups.mp member)
    exact same ▸ path_id_valid _
  have branchesValid : ∀ id ∈ branchIds entry candidate lower
      (matchedFlows entry candidate flowRows) configurationFacts, validId id "fact:" = true := by
    intro id member
    obtain ⟨identity, -, same⟩ := List.mem_map.mp (branch_derived _ _ _ _ _ id member)
    exact same ▸ fact_id_valid _
  rw [run]
  simp only [bind_ok, config_run_iff lower sourceExcerpts configurationFacts covered]
  constructor
  · rintro ⟨_, ⟨fits, rfl⟩, created, made, same⟩
    have shape := (summary created pathsValid (erase_dups_nodup _)
      (evidence_phases_known entry) branchesValid).mp made
    refine ⟨fits, ⟨shape.1.1, shape.1.2.2⟩, ?_⟩
    rw [← Except.ok.inj same, ← shape.2]
    rfl
  · rintro ⟨fits, counts, rfl⟩
    refine ⟨_, ⟨fits, rfl⟩, _, (summary _ pathsValid (erase_dups_nodup _)
      (evidence_phases_known entry) branchesValid).mpr
        ⟨⟨counts.1, evidence_phases_few entry, counts.2⟩, rfl⟩, rfl⟩

theorem shape_iff (facts : List StaticFact)
    (said : facts.map StaticFact.values = adaptedValues entry candidate lower growth.excerptId
      handler.excerptId (matchedFlows entry candidate flowRows) configurationFacts) :
    PayloadShape entry.entryId candidate.growthId sourceExcerpts
        (evidenceOf entry candidate lower sourceExcerpts flowRows configurationFacts registration
          facts) ↔
      (sourceExcerpts.length ≤ 64 ∧ facts.length ≤ 256 ∧ configurationFacts.length ≤ 64) ∧
        ((excerptIds sourceExcerpts).Nodup ∧ (facts.map StaticFact.factId).Nodup) ∧
        sourceBytes sourceExcerpts ≤ maxSourceBytes ∧
        (canonicalJson (sliceDict entry.entryId candidate.growthId sourceExcerpts
          (facts.map StaticFact.values) (cfgValues entry candidate lower configurationFacts
            (matchedFlows entry candidate flowRows)) [⟨entry.framework, registration.excerptId⟩]
          (configurationFacts.map (configFactValues lower sourceExcerpts)))).length ≤
            maxCanonicalPayloadBytes := by
  have ids := values_ids facts _ said
  have permuted := List.perm_insertionSort
    (fun left right : FactValues => left.factId ≤ right.factId)
    (familyValues entry candidate lower growth.excerptId handler.excerptId
      (matchedFlows entry candidate flowRows) configurationFacts)
  rw [← adaptedValues] at permuted
  have named : ∀ id ∈ derivedIds entry candidate lower (matchedFlows entry candidate flowRows)
      configurationFacts, id ∈ facts.map StaticFact.factId := by
    intro id member
    rw [ids]
    exact (permuted.map _).mem_iff.mpr ((family_ids entry candidate lower growth.excerptId
      handler.excerptId (matchedFlows entry candidate flowRows) configurationFacts).mem_iff.mpr
        (List.mem_append_left _ member))
  have family : ∀ fact ∈ facts, fact.values ∈ familyValues entry candidate lower growth.excerptId
      handler.excerptId (matchedFlows entry candidate flowRows) configurationFacts := by
    intro fact member
    apply permuted.mem_iff.mp
    rw [← said]
    exact List.mem_map_of_mem member
  have located : ∀ excerpt ∈ sourceExcerpts, excerpt.excerptId ∈ excerptIds sourceExcerpts :=
    fun excerpt member => List.mem_map_of_mem member
  have growthKnown := located growth (covering_member _ _ _ _ growth sites.growthFound)
  have handlerKnown := located handler (covering_member _ _ _ _ handler sites.handlerFound)
  have registrationKnown := located registration
    (covering_member _ _ _ _ registration sites.registrationFound)
  constructor
  · intro shape
    refine ⟨⟨shape.excerptsBounded, shape.factsBounded, ?_⟩,
      ⟨shape.excerptsDistinct, shape.factsDistinct⟩, shape.sourceBounded, shape.payloadBounded⟩
    have bounded := shape.configBounded
    rw [evidenceOf, List.length_map] at bounded
    exact bounded
  · rintro ⟨⟨excerptsBounded, factsBounded, configBounded⟩, ⟨excerptsDistinct, factsDistinct⟩,
      sourceBounded, payloadBounded⟩
    have one :
        [(⟨entry.framework, registration.excerptId⟩ : RegistrationEvidence)].length ≤ 64 := by
      rw [List.length_singleton]
      decide
    refine ⟨excerptsBounded, factsBounded, one, ?_, ?_, ?_, ?_, excerptsDistinct,
      factsDistinct, ?_, ?_, ?_, ?_, ?_, sourceBounded, payloadBounded⟩
    · rw [evidenceOf, List.length_map]
      exact configBounded
    · rw [entry.idCanonical]
      exact stable_identifier_valid "entry" "entry:" (by decide) _ (by decide) (by decide)
        (List.all_eq_true.mp (by decide))
    · rw [candidate.idCanonical]
      exact stable_identifier_valid "growth" "growth:" (by decide) _ (by decide) (by decide)
        (List.all_eq_true.mp (by decide))
    · exact List.ne_nil_of_mem (covering_member _ _ _ _ growth sites.growthFound)
    · intro fact member
      have placed : fact.locationRef = growth.excerptId ∨ fact.locationRef = handler.excerptId :=
        family_located _ _ _ _ _ _ _ _ (family fact member)
      rcases placed with same | same
      · rw [same]
        exact growthKnown
      · rw [same]
        exact handlerKnown
    · intro own member
      rw [List.mem_singleton.mp member]
      exact registrationKnown
    · intro fact member
      obtain ⟨given, inside, rfl⟩ := List.mem_map.mp member
      rcases config_location_shape sourceExcerpts given (covered given inside) with
        ⟨excerpt, known, same⟩ | same
      · have placed : (configFactValues lower sourceExcerpts given).sourceLocationRef =
            excerpt.excerptId := same
        rw [placed]
        exact Or.inl (located excerpt known)
      · exact Or.inr same
    · intro id member
      exact named id (branch_derived _ _ _ _ _ id member)
    · intro fact member reference refers
      obtain ⟨row, inside, rfl⟩ := family_referring _ _ _ _ _ _ _ _ (family fact member) reference
        refers
      apply named
      exact List.mem_map.mpr ⟨flowIdentity entry candidate row,
        List.mem_append_left _ (List.mem_map_of_mem inside), rfl⟩

theorem well_formed_rows (formed : WellFormedSlice entry candidate lower sourceExcerpts flowRows
      configurationFacts) :
    ((matchedFlows entry candidate flowRows).map (flowFactId entry candidate)).Nodup := by
  obtain ⟨evidence, adapted, distinct, -⟩ := formed
  obtain ⟨some_, excerptsDistinct, short⟩ := adapted_needs entry candidate lower sourceExcerpts
    flowRows configurationFacts evidence adapted
  obtain ⟨facts, said, run⟩ := adapted_iff entry candidate lower sourceExcerpts flowRows
    configurationFacts growth registration handler sites covered some_ excerptsDistinct short
  rw [← ((run evidence).mp adapted).2.2] at distinct
  have ids : (facts.map StaticFact.factId).Nodup := distinct
  rw [values_ids facts _ said, adaptedValues, ((List.perm_insertionSort _ _).map _).nodup_iff,
    (family_ids entry candidate lower growth.excerptId handler.excerptId
      (matchedFlows entry candidate flowRows) configurationFacts).nodup_iff, derivedIds,
    factIdentities, List.map_append, List.map_map, List.append_assoc] at ids
  exact ids.of_append_left

/-- Where every location is covered, the slice is well formed exactly where its parts fit. -/
theorem slice_accepted_iff (apart : DigestsApart entry candidate lower
      (matchedFlows entry candidate flowRows) configurationFacts) :
    WellFormedSlice entry candidate lower sourceExcerpts flowRows configurationFacts ↔
      SliceFits entry candidate lower sourceExcerpts flowRows configurationFacts growth
        registration handler := by
  have paths := paths_count entry candidate lower flowRows configurationFacts apart
  have names := ids_distinct_iff entry candidate lower growth.excerptId handler.excerptId
    (matchedFlows entry candidate flowRows) configurationFacts apart
  have count := family_count entry candidate lower growth.excerptId handler.excerptId
    (matchedFlows entry candidate flowRows) configurationFacts
  have permuted := List.perm_insertionSort
    (fun left right : FactValues => left.factId ≤ right.factId)
    (familyValues entry candidate lower growth.excerptId handler.excerptId
      (matchedFlows entry candidate flowRows) configurationFacts)
  rw [← adaptedValues] at permuted
  rw [← (permuted.map FactValues.factId).nodup_iff] at names
  rw [← permuted.length_eq] at count
  constructor
  · rintro ⟨evidence, adapted, distinct, made⟩
    obtain ⟨some_, excerptsDistinct, short⟩ := adapted_needs entry candidate lower sourceExcerpts
      flowRows configurationFacts evidence adapted
    obtain ⟨facts, said, run⟩ := adapted_iff entry candidate lower sourceExcerpts flowRows
      configurationFacts growth registration handler sites covered some_ excerptsDistinct short
    obtain ⟨fits, counts, same⟩ := (run evidence).mp adapted
    rw [← same, payload_created_iff, shape_iff entry candidate lower sourceExcerpts flowRows
      configurationFacts growth registration handler sites covered facts said, said,
      values_ids facts _ said, ← List.length_map StaticFact.values, said] at made
    obtain ⟨⟨excerpts, few, configuration⟩, ⟨-, apartIds⟩, bytes, payload⟩ := made
    have rows := names.mp apartIds
    exact ⟨excerptsDistinct, excerpts, bytes, short, rows.2, rows.1, count ▸ few,
      paths ▸ counts.1, configuration, fits, payload⟩
  · intro fits
    have some_ : sourceExcerpts ≠ [] :=
      List.ne_nil_of_mem (covering_member _ _ _ _ growth sites.growthFound)
    obtain ⟨facts, said, run⟩ := adapted_iff entry candidate lower sourceExcerpts flowRows
      configurationFacts growth registration handler sites covered some_ fits.excerptsDistinct
      fits.evidenceShort
    have distinct : (facts.map StaticFact.factId).Nodup := by
      rw [values_ids facts _ said]
      exact names.mpr ⟨fits.rowsApart, fits.evidenceApart⟩
    have few : facts.length ≤ 256 := by
      rw [← List.length_map StaticFact.values, said, count]
      exact fits.factsBounded
    have branches : (branchIds entry candidate lower (matchedFlows entry candidate flowRows)
        configurationFacts).length ≤ 256 := by
      have eight : (semanticValues entry candidate lower (matchedFlows entry candidate flowRows)
        configurationFacts).length = 8 := rfl
      have total := fits.factsBounded
      simp only [branchIds, List.length_append, List.length_map, eight]
      omega
    refine ⟨_, (run _).mpr ⟨fits.integersFit, ⟨paths ▸ fits.pathsBounded, branches⟩, rfl⟩, distinct,
      (payload_created_iff _ _ _ _).mpr ?_⟩
    rw [shape_iff entry candidate lower sourceExcerpts flowRows configurationFacts growth
      registration handler sites covered facts said, said]
    exact ⟨⟨fits.excerptsBounded, few, fits.configurationBounded⟩,
      ⟨fits.excerptsDistinct, distinct⟩, fits.sourceBounded, fits.payloadBounded⟩

end

end

theorem sample_sites (candidate : GrowthCandidate) (same : candidate.site = sampleCandidate.site) :
    Sites sampleEntry candidate [sampleExcerpt] sampleExcerpt sampleExcerpt
      sampleExcerpt where
  growthFound := by
    rw [same]
    exact covering_single sampleExcerpt _ _ _ ⟨rfl, by decide⟩
  registrationFound := covering_single sampleExcerpt _ _ _ ⟨rfl, by decide⟩
  handlerFound := covering_single sampleExcerpt _ _ _ ⟨rfl, by decide⟩

def tokenRow (phaseSequence : String) : FlowRow :=
  { foreignRow with attackerSource := "token", attackerSink := "token", phaseSequence }

def phaseRows : List FlowRow := [tokenRow "in_handler", tokenRow "before_handler>in_handler"]

/-- Two rows that differ in their phases only give one flow fact, which no slice holds twice. -/
theorem phase_rows_collide : ¬ ∀ (entry : EntryFact) (candidate : GrowthCandidate)
    (lower : String → String) (sourceExcerpts : List AttestedExcerpt) (flowRows : List FlowRow)
    (configurationFacts : List ModeledConfigurationFact)
    (growth registration handler : AttestedExcerpt),
      Sites entry candidate sourceExcerpts growth registration handler →
      (∀ fact ∈ configurationFacts, ConfigCovered sourceExcerpts fact) →
      WellFormedSlice entry candidate lower sourceExcerpts flowRows configurationFacts := by
  intro formed
  have distinct := well_formed_rows sampleEntry sampleCandidate id [sampleExcerpt] phaseRows
    [] sampleExcerpt sampleExcerpt sampleExcerpt (sample_sites sampleCandidate rfl)
    (fun _ member => absurd member List.not_mem_nil)
    (formed _ _ _ _ _ _ _ _ _ (sample_sites sampleCandidate rfl) fun _ member => absurd member List.not_mem_nil)
  have selected :
      phaseRows.filter (selectsRow sampleEntry sampleCandidate) = phaseRows := by
    apply List.filter_eq_self.mpr
    intro row member
    simp only [phaseRows, List.mem_cons, List.not_mem_nil, or_false] at member
    rcases member with rfl | rfl <;> decide
  rw [matchedFlows, selected, ((List.perm_insertionSort _ _).map _).nodup_iff] at distinct
  have twice := List.nodup_cons.mp distinct
  exact twice.1 (.head _)

/-- An attribute of the session that a request handler sets. -/
def sessionCandidate : GrowthCandidate := { sampleCandidate with
  growthId := "growth:b1f15e362dd6b844e61ba453"
  operation := ⟨"HttpSession.setAttribute", by decide⟩
  resourceId := "resource:ed0ab98ab89c55b74b31e212"
  resourceDimension := .objects
  receiver := ⟨"HttpSession", by decide⟩
  fieldPath := ⟨"cart", by decide⟩
  demandInputs := [⟨⟨"token", Entries.token_valid⟩, .value⟩]
  escapeScope := .session
  evidenceIds := ⟨["fact:session"], by decide, by decide⟩
  coverageStatus := .partialCoverage
  demandsRequired := by decide
  demandsBounded := by decide
  demandsOrdered := List.pairwise_singleton _ _
  evidenceRequired := by decide
  evidenceBounded := by decide
  evidenceValid := by decide
  resourceCanonical := by
    rw [identifier_codes]
    decide +kernel
  idCanonical := by
    rw [identifier_codes]
    decide +kernel }

theorem fact_codes : stableIdentifier "fact" = fun fields => "fact" ++ ":" ++ String.ofList
    ((Sha256.rollingDigits (canonicalBytes (.obj fields))).take 24) :=
  funext (identifier_codes "fact")

theorem session_derived : derivedIds sampleEntry sessionCandidate id [] [] =
    ["fact:1063011ffbc925084f4deb55", "fact:4ec5da56bc9767750799d023",
      "fact:3b66edc69db0e358ea77d9a9", "fact:ebafc4e33891e2a78f0205a9",
      "fact:85d6e1f0b3d7370f5c2ed749", "fact:73a0a13d020c3865f774773e",
      "fact:660c62d29fdbe5f0063813f6", "fact:8965c99f97a4cd1e899a2618"] := by
  rw [derivedIds, fact_codes]
  decide +kernel

/-- The row of a flow into the sample's map. -/
def tokenRows : List FlowRow := [tokenRow "in_handler"]

theorem token_rows_matched :
    matchedFlows sampleEntry sampleCandidate tokenRows = tokenRows := by
  decide

theorem token_ids : derivedIds sampleEntry sampleCandidate id tokenRows [] =
    ["fact:bf0743762e16968f953c452c", "fact:32b82ba966432ca6c1c856ba",
      "fact:41f590b7bf2760874073f1df", "fact:26ce3128e6cd7685b3982c36",
      "fact:b4a0fc55e3d1dfdfd61c7b80", "fact:ea9f88344cbffdf30f48b8ce",
      "fact:a447b53655f3f0631427041d", "fact:e3aee82ffe2c1d41287dd04e",
      "fact:91bce7693db14db694da2644", "fact:751a9fdcde4c5c0b20070322",
      "fact:1411600dcd96ae1fa6164540"] := by
  have flow : flowFactId sampleEntry sampleCandidate (tokenRow "in_handler") =
      "fact:bf0743762e16968f953c452c" := by
    rw [flowFactId, identifier_codes]
    decide +kernel
  simp only [derivedIds, factIdentities, tokenRows, List.map_cons, List.map_nil, targetIdentity,
    flow]
  rw [fact_codes]
  decide +kernel

theorem token_apart :
    ("fact:put" :: derivedIds sampleEntry sampleCandidate id tokenRows []).Nodup := by
  rw [token_ids]
  decide

theorem token_payload_bounded : (canonicalJson (sliceDict sampleEntry.entryId
    sampleCandidate.growthId [sampleExcerpt] (adaptedValues sampleEntry sampleCandidate id
      sampleExcerpt.excerptId sampleExcerpt.excerptId tokenRows [])
    (cfgValues sampleEntry sampleCandidate id [] tokenRows)
    [⟨sampleEntry.framework, sampleExcerpt.excerptId⟩] [])).length ≤
      maxCanonicalPayloadBytes := by
  have drivers : driverSemantics sampleEntry [tokenRow "in_handler"] =
      [(.driverOrigin, "request_parameter", .source)] := by
    decide
  have ids : tokenRows.map (flowFactId sampleEntry sampleCandidate) ++
      (tokenRows.map (targetFactId sampleEntry sampleCandidate) ++
        (semanticsOf sampleEntry sampleCandidate id tokenRows []).map
          (semanticFactId sampleEntry sampleCandidate)) = _ := token_ids
  simp only [semanticsOf, semanticValues, tokenRows, drivers, List.map_cons, List.map_nil,
    List.cons_append, List.nil_append, List.cons.injEq, and_true] at ids
  simp only [canonical_length, adaptedValues, familyValues, cfgValues, branchIds, tokenRows,
    List.map_cons, List.map_nil, flowValues, targetValues, semanticFactValues, semanticValues,
    primarySource, List.head?_cons, Option.map_some, drivers, ids, pathId, identifier_codes]
  decide +kernel

/-- The slice of a candidate with one flow is accepted. -/
theorem slice_accepted_iff_sample :
    WellFormedSlice sampleEntry sampleCandidate id [sampleExcerpt] tokenRows [] := by
  have matched := token_rows_matched
  obtain ⟨free, apart⟩ := List.nodup_cons.mp token_apart
  refine (slice_accepted_iff _ _ _ _ _ _ _ _ _ (sample_sites sampleCandidate rfl)
    (fun _ member => absurd member List.not_mem_nil) ?_).mpr ?_
  · rw [matched]
    refine ⟨List.inj_on_of_nodup_map apart, ?_⟩
    intro left leftIn right rightIn _
    rw [List.mem_singleton.mp leftIn, List.mem_singleton.mp rightIn]
  · constructor
    case evidenceApart =>
      rw [matched]
      exact List.forall_mem_singleton.mpr free
    case payloadBounded =>
      rw [matched]
      exact token_payload_bounded
    case integersFit => exact fun _ member => absurd member List.not_mem_nil
    all_goals decide

end DosWeb.Growth
