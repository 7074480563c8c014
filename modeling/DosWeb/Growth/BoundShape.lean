import DosWeb.Growth.Contracts
import DosWeb.Growth.SlicePayloads

/-!
The growth shape that a contract gets from the sinks of its slice, and when it is the candidate's.
-/

namespace DosWeb.Growth

open Library.Gates
open Entries (EntryFact sampleEntry)
open Flows (FlowRow)
open Reachability (ModeledConfigurationFact)

section

def GrowthKind.ownDimension : GrowthKind → ResourceDimension
  | .inputMaterialization => .bytes
  | .directAllocation => .bytes
  | .containerGrowth => .entries
  | .asyncWorkGrowth => .tasks

theorem sink_shape_own (kind : GrowthKind) :
    kind.factKind.sinkShape = some (kind, kind.ownDimension) := by
  cases kind <;> rfl

variable (entry : EntryFact) (candidate : GrowthCandidate) (lower : String → String)
  (sourceExcerpts : List AttestedExcerpt) (flowRows : List FlowRow)
  (configurationFacts : List ModeledConfigurationFact)

theorem family_shapes (growthLocation handlerLocation : String) (flows : List FlowRow)
    (fact : FactValues) (member : fact ∈ familyValues entry candidate lower growthLocation
      handlerLocation flows configurationFacts) : fact.kind.sinkShape = none ∨
      (fact.relation = .sink ∧ fact.kind = candidate.kind.factKind) := by
  simp only [familyValues, List.mem_append, List.mem_map] at member
  rcases member with (((⟨row, -, rfl⟩ | ⟨row, -, rfl⟩) | ⟨id, -, rfl⟩) | ⟨semantic, inside, rfl⟩) |
    ⟨semantic, inside, rfl⟩
  · exact Or.inl rfl
  · exact Or.inl rfl
  · exact Or.inr ⟨rfl, rfl⟩
  · left
    obtain ⟨origin, -, rfl⟩ := List.mem_map.mp inside
    rfl
  · left
    simp only [semanticValues, List.mem_cons, List.not_mem_nil, or_false] at inside
    rcases inside with rfl | rfl | rfl | rfl | rfl | rfl | rfl | rfl <;> rfl

variable (evidence : GrowthStaticEvidence)
  (adapted : adaptGrowthStaticEvidence entry candidate lower sourceExcerpts flowRows
    configurationFacts = .ok evidence)

include adapted

theorem adapted_sites : ∃ growth registration handler,
    Sites entry candidate sourceExcerpts growth registration handler := by
  simp only [adaptGrowthStaticEvidence, bind_ok, require_ok, decide_eq_true_eq,
    exists_const] at adapted
  obtain ⟨-, -, growth, growthFound, registration, registrationFound, handler, handlerFound, -⟩ :=
    adapted
  exact ⟨growth, registration, handler, growthFound, registrationFound, handlerFound⟩

theorem adapted_facts : ∃ growthLocation handlerLocation,
    evidence.staticFacts.map StaticFact.values = adaptedValues entry candidate lower growthLocation
      handlerLocation (matchedFlows entry candidate flowRows) configurationFacts := by
  obtain ⟨growth, registration, handler, sites⟩ := adapted_sites entry candidate lower
    sourceExcerpts flowRows configurationFacts evidence adapted
  obtain ⟨some_, distinct, short⟩ := adapted_needs entry candidate lower sourceExcerpts flowRows
    configurationFacts evidence adapted
  obtain ⟨facts, said, run⟩ := adapted_run entry candidate lower sourceExcerpts flowRows
    configurationFacts growth registration handler some_ distinct short sites
  rw [run] at adapted
  simp only [bind_ok] at adapted
  obtain ⟨_, -, _, -, same⟩ := adapted
  refine ⟨growth.excerptId, handler.excerptId, ?_⟩
  rw [← Except.ok.inj same]
  exact said

theorem adapted_shapes :
    sinkShapes evidence.staticFacts = [(candidate.kind, candidate.kind.ownDimension)] := by
  obtain ⟨growthLocation, handlerLocation, said⟩ := adapted_facts entry candidate lower
    sourceExcerpts flowRows configurationFacts evidence adapted
  have permuted := List.perm_insertionSort
    (fun left right : FactValues => left.factId ≤ right.factId)
    (familyValues entry candidate lower growthLocation handlerLocation
      (matchedFlows entry candidate flowRows) configurationFacts)
  rw [← adaptedValues, ← said] at permuted
  have only : ∀ shape, shape ∈ sinkShapes evidence.staticFacts ↔
      shape = (candidate.kind, candidate.kind.ownDimension) := by
    intro shape
    simp only [sinkShapes, List.mem_dedup, List.mem_filterMap, List.mem_filter, decide_eq_true_eq]
    constructor
    · rintro ⟨fact, ⟨member, -⟩, found⟩
      have inside := permuted.mem_iff.mp (List.mem_map_of_mem (f := StaticFact.values) member)
      rcases family_shapes entry candidate lower configurationFacts _ _ _ _ inside with none_ | own
      · rw [show fact.kind.sinkShape = none from none_] at found
        cases found
      · rw [show fact.kind = candidate.kind.factKind from own.2, sink_shape_own] at found
        exact (Option.some_inj.mp found).symm
    · rintro rfl
      obtain ⟨id, known⟩ := List.exists_mem_of_ne_nil _ candidate.evidenceRequired
      have inside : sinkValues candidate growthLocation (primarySource entry candidate
          (matchedFlows entry candidate flowRows)) id ∈ evidence.staticFacts.map
            StaticFact.values := by
        apply permuted.mem_iff.mpr
        simp only [familyValues, List.mem_append]
        exact Or.inl (Or.inl (Or.inr (List.mem_map_of_mem known)))
      obtain ⟨fact, member, same⟩ := List.mem_map.mp inside
      have kind : fact.kind = candidate.kind.factKind := congrArg FactValues.kind same
      have relation : fact.relation = .sink := congrArg FactValues.relation same
      exact ⟨fact, ⟨member, relation⟩, by rw [kind, sink_shape_own]⟩
  have distinct : (sinkShapes evidence.staticFacts).Nodup := List.nodup_dedup _
  have same := (List.perm_ext_iff_of_nodup distinct (List.nodup_singleton _)).mpr
    fun shape => (only shape).trans List.mem_singleton.symm
  exact List.perm_singleton.mp same

end

section

theorem bound_shape (provider : ProviderGrowthContract) (boundedSlice : BoundedSlice)
    (aliases : List (String × String)) (contract : GrowthContract)
    (bound : bindProviderGrowthContract provider boundedSlice aliases = .ok contract)
    (kind : GrowthKind) (dimension : ResourceDimension)
    (shape : sinkShapes boundedSlice.payload.staticFacts = [(kind, dimension)]) :
    contract.growthKind = some kind ∧ contract.resourceDimension = some dimension := by
  unfold bindProviderGrowthContract at bound
  simp only [bind_ok, require_ok] at bound
  obtain ⟨attackerIds, -, required, -, _, -, run⟩ := bound
  rw [shape] at run
  simp only [bind_ok] at run
  obtain ⟨influence, -, made⟩ := run
  split_ifs at made
  cases made
  exact ⟨rfl, rfl⟩

variable (candidate : GrowthCandidate)

variable (boundedSlice : BoundedSlice) (contract : GrowthContract) (index : StaticFactIndex)

theorem shape_reason (kind : contract.growthKind = some candidate.kind)
    (dimension : contract.resourceDimension = some candidate.resourceDimension)
    (gate : Gate (VerificationStatus × String))
    (member : gate ∈ growthGates candidate boundedSlice contract index)
    (status : VerificationStatus) (reason : String)
    (failed : gate.failure = some (status, reason)) :
    reason ∉ ["GROWTH_KIND_MISMATCH", "GROWTH_DIMENSION_MISMATCH"] := by
  simp only [growthGates, kind, dimension, List.mem_cons, List.not_mem_nil, or_false] at member
  rcases member with rfl | rfl | rfl | rfl | rfl | rfl | rfl | rfl | rfl | rfl | rfl | rfl | rfl |
      rfl | rfl | rfl | rfl <;> simp only [failUnless] at failed <;> split at failed <;>
    simp only [reduceCtorEq, Option.some.injEq, Prod.mk.injEq] at failed <;>
    rcases failed with ⟨rfl, rfl⟩ <;> simp_all

theorem result_reasons (boundedSlice : BoundedSlice)
    (status : VerificationStatus) (reasonCodes : List String) (checks : List VerificationCheck)
    (built : VerifiedGrowthResult)
    (returned : result candidate boundedSlice status reasonCodes checks = .ok built) :
    built.reasonCodes = reasonCodes := by
  unfold result at returned
  split_ifs at returned
  cases returned
  rfl

theorem reason_of_gate (built : VerifiedGrowthResult)
    (returned : verifyGrowthContract candidate boundedSlice contract index = .ok built)
    (reason : String) (given : reason ∈ built.reasonCodes) :
    ∃ gate ∈ growthGates candidate boundedSlice contract index, ∃ status,
      gate.failure = some (status, reason) := by
  unfold verifyGrowthContract at returned
  split_ifs at returned
  split at returned
  · rw [result_reasons _ _ _ _ _ built returned] at given
    cases given
  · rename_i passed name status own ran
    rw [result_reasons _ _ _ _ _ built returned, List.mem_singleton] at given
    obtain ⟨gate, member, -, failed⟩ := run_failed_mem _ name (status, own)
      (congrArg Prod.snd ran)
    exact ⟨gate, member, status, given ▸ failed⟩

/-- The contract has the candidate's shape, and the verification never finds another. -/
structure ShapeKept (candidate : GrowthCandidate) (boundedSlice : BoundedSlice)
    (contract : GrowthContract) : Prop where
  kind : contract.growthKind = some candidate.kind
  dimension : contract.resourceDimension = some candidate.resourceDimension
  unmentioned : ∀ index built,
    verifyGrowthContract candidate boundedSlice contract index = .ok built →
    ∀ reason ∈ built.reasonCodes, reason ∉ ["GROWTH_KIND_MISMATCH", "GROWTH_DIMENSION_MISMATCH"]

/-- A contract bound to the slice of a candidate has its kind, and has its dimension exactly where
that is the kind's own. -/
theorem bound_shape_iff (entry : EntryFact) (candidate : GrowthCandidate)
    (lower : String → String) (sourceExcerpts : List AttestedExcerpt) (flowRows : List FlowRow)
    (configurationFacts : List ModeledConfigurationFact) (evidence : GrowthStaticEvidence)
    (adapted : adaptGrowthStaticEvidence entry candidate lower sourceExcerpts flowRows
      configurationFacts = .ok evidence)
    (boundedSlice : BoundedSlice) (own : boundedSlice.payload.staticFacts = evidence.staticFacts)
    (provider : ProviderGrowthContract) (aliases : List (String × String))
    (contract : GrowthContract)
    (bound : bindProviderGrowthContract provider boundedSlice aliases = .ok contract) :
    ShapeKept candidate boundedSlice contract ↔
      candidate.resourceDimension = candidate.kind.ownDimension := by
  have shapes := adapted_shapes entry candidate lower sourceExcerpts flowRows configurationFacts
    evidence adapted
  rw [← own] at shapes
  obtain ⟨kind, dimension⟩ := bound_shape provider boundedSlice aliases contract bound _ _ shapes
  constructor
  · intro kept
    exact Option.some_inj.mp (kept.dimension.symm.trans dimension)
  · intro same
    rw [← same] at dimension
    refine ⟨kind, dimension, ?_⟩
    intro index built returned reason given
    obtain ⟨gate, member, status, failed⟩ := reason_of_gate candidate boundedSlice contract index
      built returned reason given
    exact shape_reason candidate boundedSlice contract index kind dimension gate member status
      reason failed

end

theorem session_adapted : ∃ evidence,
    adaptGrowthStaticEvidence sampleEntry sessionCandidate id [sampleExcerpt] [] [] =
      .ok evidence ∧
    evidence.staticFacts.map StaticFact.values = adaptedValues sampleEntry sessionCandidate
      id sampleExcerpt.excerptId sampleExcerpt.excerptId [] [] := by
  obtain ⟨facts, said, run⟩ := adapted_iff sampleEntry sessionCandidate id [sampleExcerpt]
    [] [] sampleExcerpt sampleExcerpt sampleExcerpt (sample_sites sessionCandidate rfl)
    nofun (List.cons_ne_nil _ _)
    (List.nodup_singleton _) (by decide)
  exact ⟨_, (run _).mpr ⟨nofun, by decide, rfl⟩, said⟩

theorem session_slice (evidence : GrowthStaticEvidence)
    (said : evidence.staticFacts.map StaticFact.values = adaptedValues sampleEntry
      sessionCandidate id sampleExcerpt.excerptId sampleExcerpt.excerptId [] []) :
    ∃ boundedSlice : BoundedSlice, boundedSlice.payload.staticFacts = evidence.staticFacts := by
  have permuted := List.perm_insertionSort
    (fun left right : FactValues => left.factId ≤ right.factId)
    (familyValues sampleEntry sessionCandidate id sampleExcerpt.excerptId
      sampleExcerpt.excerptId [] [])
  rw [← adaptedValues, ← said] at permuted
  have family : ∀ fact ∈ evidence.staticFacts, fact.values ∈ familyValues sampleEntry
      sessionCandidate id sampleExcerpt.excerptId sampleExcerpt.excerptId [] [] :=
    fun fact member => permuted.mem_iff.mp (List.mem_map_of_mem member)
  have count : evidence.staticFacts.length = 9 := by
    calc
      evidence.staticFacts.length = (evidence.staticFacts.map StaticFact.values).length :=
        (List.length_map StaticFact.values).symm
      _ = 9 := permuted.length_eq
  have distinct : (evidence.staticFacts.map StaticFact.factId).Nodup := by
    have ids := family_ids sampleEntry sessionCandidate id sampleExcerpt.excerptId
      sampleExcerpt.excerptId [] []
    have named := permuted.map FactValues.factId
    rw [values_ids evidence.staticFacts _ rfl, named.nodup_iff, ids.nodup_iff, session_derived]
    decide
  have located : ∀ fact ∈ evidence.staticFacts,
      fact.locationRef ∈ [sampleExcerpt.reference].map SourceExcerpt.excerptId := by
    intro fact member
    rw [List.map_singleton, List.mem_singleton]
    exact (or_self_iff.mp (family_located _ _ _ _ _ _ _ _ (family fact member)))
  have unreferring : ∀ fact ∈ evidence.staticFacts, ∀ reference,
      fact.valueRef = some reference → reference ∈ evidence.staticFacts.map StaticFact.factId := by
    intro fact member reference refers
    obtain ⟨row, inside, -⟩ := family_referring _ _ _ _ _ _ _ _ (family fact member) reference
      refers
    cases inside
  exact ⟨{
    sliceId := "slice:session"
    payload := {
      entryId := "entry:handler"
      growthId := sessionCandidate.growthId
      sourceExcerpts := [sampleExcerpt.reference]
      staticFacts := evidence.staticFacts
      entryIdValid := by decide
      growthIdValid := by decide
      excerptsRequired := List.cons_ne_nil _ _
      excerptsBounded := by decide
      factsBounded := by omega
      excerptsDistinct := List.nodup_singleton _
      factsDistinct := distinct
      locationsKnown := located
      valueRefsKnown := unreferring }
    sliceIdValid := by decide }, rfl⟩

def declinedProvider : ProviderGrowthContract where
  isResourceGrowth := .unknown
  attackerEvidenceIds := []
  resourceEffect := .unknown
  attackerVariable := "unknown"
  attackerValueSpace := .unknown
  growthUnit := "object"
  growthFunction := "unknown"
  amplificationClass := .unknown
  requestsToPressure := .unknown
  concurrencyModel := "unknown"
  retentionWindow := .unknown
  failureMechanism := .unknown
  failureSignal := "unknown"
  requiredStaticEvidence := []
  contractStatus := .unknown
  rejectionReason := .unknown
  confidence := .low

theorem session_bound (evidence : GrowthStaticEvidence)
    (adapted : adaptGrowthStaticEvidence sampleEntry sessionCandidate id [sampleExcerpt] []
      [] = .ok evidence) (boundedSlice : BoundedSlice)
    (own : boundedSlice.payload.staticFacts = evidence.staticFacts) :
    ∃ contract, bindProviderGrowthContract declinedProvider boundedSlice [] = .ok contract := by
  have shapes := adapted_shapes _ _ _ _ _ _ _ adapted
  rw [← own] at shapes
  unfold bindProviderGrowthContract
  simp only [declinedProvider, restoreAll, ok_bind, List.append_nil, List.all_nil, require, shapes]
  exact ⟨_, rfl⟩

theorem bound_shape_iff_sample : ∃ evidence boundedSlice contract,
    adaptGrowthStaticEvidence sampleEntry sessionCandidate id [sampleExcerpt] [] [] =
      .ok evidence ∧ bindProviderGrowthContract declinedProvider boundedSlice [] = .ok contract ∧
    (ShapeKept sessionCandidate boundedSlice contract ↔
      sessionCandidate.resourceDimension = sessionCandidate.kind.ownDimension) := by
  obtain ⟨evidence, adapted, said⟩ := session_adapted
  obtain ⟨boundedSlice, own⟩ := session_slice evidence said
  obtain ⟨contract, bound⟩ := session_bound evidence adapted boundedSlice own
  exact ⟨evidence, boundedSlice, contract, adapted, bound,
    bound_shape_iff _ _ _ _ _ _ evidence adapted boundedSlice own _ _ contract bound⟩

theorem declined_valid (discloses : String → Bool) (unknown : discloses "unknown" = false)
    (object : discloses "object" = false) : declinedProvider.valid discloses = true := by
  have texts : ∀ text ∈ ["unknown", "object"], discloses text = false →
      freeText discloses text = true := by
    intro text listed open_
    simp only [List.mem_cons, List.not_mem_nil, or_false] at listed
    rcases listed with rfl | rfl <;> simp only [freeText, open_] <;> rfl
  have one := texts "unknown" (by simp) unknown
  have two := texts "object" (by simp) object
  simp only [ProviderGrowthContract.valid, declinedProvider, List.all_cons, List.all_nil, one, two]
  decide

/-- A session attribute grows objects, and its contract is bound to entries. -/
theorem session_dimension_lost : ¬ ∀ (discloses : String → Bool) (entry : EntryFact)
    (candidate : GrowthCandidate) (lower : String → String)
    (sourceExcerpts : List AttestedExcerpt) (flowRows : List FlowRow)
    (configurationFacts : List ModeledConfigurationFact) (evidence : GrowthStaticEvidence)
    (boundedSlice : BoundedSlice) (provider : ProviderGrowthContract)
    (aliases : List (String × String)) (contract : GrowthContract),
      provider.valid discloses = true →
      adaptGrowthStaticEvidence entry candidate lower sourceExcerpts flowRows
        configurationFacts = .ok evidence →
      boundedSlice.payload.staticFacts = evidence.staticFacts →
      bindProviderGrowthContract provider boundedSlice aliases = .ok contract →
      ShapeKept candidate boundedSlice contract := by
  intro kept
  obtain ⟨evidence, adapted, said⟩ := session_adapted
  obtain ⟨boundedSlice, own⟩ := session_slice evidence said
  obtain ⟨contract, bound⟩ := session_bound evidence adapted boundedSlice own
  have shape := kept (fun text => text.toList.contains '=') _ _ _ _ _ _ _ boundedSlice _ _ contract
    (declined_valid _ (by decide) (by decide)) adapted own bound
  have shapes := adapted_shapes _ _ _ _ _ _ _ adapted
  rw [← own] at shapes
  have entries := (bound_shape _ _ _ contract bound _ _ shapes).2
  exact absurd (entries.symm.trans shape.dimension) (by decide)

end DosWeb.Growth
