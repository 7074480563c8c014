import DosWeb.Growth.Slices
import DosWeb.Library.Gates

namespace DosWeb.Growth

open Library Library.Gates Identifiers

inductive VerificationStatus where
  | verified
  | rejected
  | unresolved
  deriving DecidableEq

def VerificationStatus.text : VerificationStatus → String
  | .verified => "verified"
  | .rejected => "rejected"
  | .unresolved => "unresolved"

structure VerificationCheck where
  name : String
  passed : Bool
  reasonCode : Option String := none
  deriving DecidableEq

def optionalText : Option String → PlainJson
  | none => .null
  | some text => .str text

def VerificationCheck.toDict (check : VerificationCheck) : PlainJson :=
  .obj [("name", .str check.name), ("passed", .bool check.passed),
    ("reason_code", optionalText check.reasonCode)]

structure VerifiedGrowthResult where
  verifiedGrowthId : String
  growthId : String
  sliceId : String
  status : VerificationStatus
  reasonCodes : List String
  checks : List VerificationCheck
  candidate : Option GrowthCandidate
  idStarts : Text.startsWith verifiedGrowthId "verified_growth:" = true
  growthIdStarts : Text.startsWith growthId "growth:" = true
  sliceIdStarts : Text.startsWith sliceId "slice:" = true
  reasonsFilled : "" ∉ reasonCodes
  verifiedUnreasoned : status = .verified → reasonCodes = []
  verifiedChecked : status = .verified → checks ≠ []
  verifiedPassed : status = .verified → ∀ check ∈ checks, check.passed = true
  failureReasoned : status ≠ .verified → reasonCodes ≠ []
  candidateMatches : ∀ growth, candidate = some growth → growth.growthId = growthId

abbrev StaticFactIndex := List (String × StaticFact)

def sliceFacts (boundedSlice : BoundedSlice) : StaticFactIndex :=
  boundedSlice.payload.staticFacts.map fun fact => (fact.factId, fact)

section

variable (candidate : GrowthCandidate) (boundedSlice : BoundedSlice) (contract : GrowthContract)
  (index : StaticFactIndex)

def influenceIds : List String := contract.attackerInfluence.map AttackerInfluence.evidenceId

def citedIds : List String := contract.requiredStaticEvidence ++ influenceIds contract

def originRelation (relation : FactRelation) : Bool := relation = .source || relation = .flowsTo

def evidenceMapped : Bool := contract.requiredStaticEvidence ≠ [] && influenceIds contract ≠ [] &&
    (citedIds contract).all fun identifier =>
      ((sliceFacts boundedSlice).lookup identifier).isSome && (index.lookup identifier).isSome

def locationsAllowed : Bool :=
  (citedIds contract).all fun identifier =>
    match index.lookup identifier with
    | none => true
    | some fact =>
      (boundedSlice.payload.sourceExcerpts.map SourceExcerpt.excerptId).contains fact.locationRef

def evidenceIdentical : Bool :=
  (citedIds contract).all fun identifier =>
    index.lookup identifier = (sliceFacts boundedSlice).lookup identifier

def influenceMapped : Bool :=
  contract.attackerInfluence.all fun influence =>
    candidate.demandRoles.contains influence.target &&
      match index.lookup influence.evidenceId, (sliceFacts boundedSlice).lookup influence.evidenceId with
      | some indexed, some sliced =>
        originRelation indexed.relation && originRelation sliced.relation
      | _, _ => false

def requestOrigins : List String :=
  ["request_body", "request_parameter", "request_path", "request_header", "request_stream",
    "network_message"]

def driverMapped : Bool :=
  contract.attackerInfluence.all fun influence =>
    match index.lookup influence.evidenceId with
    | none => false
    | some fact =>
      (fact.kind = .flow || fact.kind = .driverOrigin) &&
        match fact.normalizedValue with
        | none => false
        | some origin => requestOrigins.contains origin

/-- Some required fact is of the kind, carries the value and stands in an accepted relation. -/
def carriesFact (kind : StaticFactKind) (value : String) (accepted : FactRelation → Bool) : Bool :=
  contract.requiredStaticEvidence.any fun identifier =>
    match index.lookup identifier with
    | none => false
    | some fact => fact.kind = kind && fact.normalizedValue = some value && accepted fact.relation

def valueSpaceEvidence : Bool :=
  carriesFact contract index .valueSpace contract.attackerValueSpace.text originRelation

def retentionEvidence : Bool :=
  carriesFact contract index .retention contract.retentionWindow.text (· = .sink)

def amplificationEvidence : Bool :=
  carriesFact contract index .amplification contract.amplificationClass.text (· = .sink)

/-- The checks in the order in which the first failing one decides the result. -/
def growthGates : List (Gate (VerificationStatus × String)) := [
  ⟨"growth_coverage", failUnless (candidate.coverageStatus = .complete)
    (.unresolved, "GROWTH_COVERAGE_INCOMPLETE")⟩, ⟨"dos_relevance",
    match contract.contractStatus with
    | .growthNotDosRelevant => some (.rejected, "GROWTH_NOT_DOS_RELEVANT")
    | .unknown => some (.unresolved, "GROWTH_DOS_RELEVANCE_UNKNOWN")
    | .dosRelevant => none⟩, ⟨"resource_growth",
    match contract.isResourceGrowth with
    | .no => some (.rejected, "GROWTH_CONTRACT_NEGATED")
    | .unknown => some (.unresolved, "GROWTH_CONTRACT_UNKNOWN")
    | .yes => none⟩, ⟨"growth_kind", failUnless (contract.growthKind = some candidate.kind)
    (.unresolved, "GROWTH_KIND_MISMATCH")⟩,
  ⟨"resource_dimension", failUnless (contract.resourceDimension = some candidate.resourceDimension)
    (.unresolved, "GROWTH_DIMENSION_MISMATCH")⟩, ⟨"failure_mechanism",
    failUnless (contract.failureMechanism ≠ .none && contract.failureMechanism ≠ .unknown)
    (.unresolved, "GROWTH_FAILURE_MECHANISM_UNPROVEN")⟩,
  ⟨"requests_to_pressure", failUnless (contract.requestsToPressure ≠ RequestsToPressure.implausible)
    (.unresolved, "GROWTH_PRESSURE_IMPLAUSIBLE")⟩, ⟨"attacker_value_space",
    failUnless (contract.attackerValueSpace = .stream || contract.attackerValueSpace = .unlimited ||
      contract.attackerValueSpace = .large)
    (.unresolved, "GROWTH_ATTACKER_VALUE_SPACE_UNPROVEN")⟩, ⟨"amplification_class",
    failUnless (contract.amplificationClass ≠ .lowAmplification &&
      contract.amplificationClass ≠ .unknown)
    (.unresolved, "GROWTH_AMPLIFICATION_NOT_DOS_RELEVANT")⟩,
  ⟨"required_static_evidence", failUnless (evidenceMapped boundedSlice contract index)
    (.unresolved, "GROWTH_UNMAPPED_REQUIRED_EVIDENCE")⟩,
  ⟨"allowed_locations", failUnless (locationsAllowed boundedSlice contract index)
    (.unresolved, "GROWTH_LOCATION_OUTSIDE_SLICE")⟩,
  ⟨"evidence_identity", failUnless (evidenceIdentical boundedSlice contract index)
    (.unresolved, "GROWTH_UNMAPPED_REQUIRED_EVIDENCE")⟩,
  ⟨"attacker_influence", failUnless (influenceMapped candidate boundedSlice contract index)
    (.unresolved, "GROWTH_UNMAPPED_ATTACKER_INFLUENCE")⟩,
  ⟨"driver_origin", failUnless (driverMapped contract index)
    (.unresolved, "GROWTH_DRIVER_EVIDENCE_UNMAPPED")⟩,
  ⟨"value_space_evidence", failUnless (valueSpaceEvidence contract index)
    (.unresolved, "GROWTH_VALUE_SPACE_EVIDENCE_UNMAPPED")⟩,
  ⟨"retention_evidence", failUnless (retentionEvidence contract index)
    (.unresolved, "GROWTH_RETENTION_EVIDENCE_UNMAPPED")⟩,
  ⟨"amplification_evidence", failUnless (amplificationEvidence contract index)
    (.unresolved, "GROWTH_AMPLIFICATION_EVIDENCE_UNMAPPED")⟩]

end

/-- What the constructor demands of a status with its reasons and checks. -/
structure ResultShape (status : VerificationStatus) (reasonCodes : List String)
    (checks : List VerificationCheck) : Prop where
  reasonsFilled : "" ∉ reasonCodes
  verifiedUnreasoned : status = .verified → reasonCodes = []
  verifiedChecked : status = .verified → checks ≠ []
  verifiedPassed : status = .verified → ∀ check ∈ checks, check.passed = true
  failureReasoned : status ≠ .verified → reasonCodes ≠ []

instance (status : VerificationStatus) (reasonCodes : List String)
    (checks : List VerificationCheck) : Decidable (ResultShape status reasonCodes checks) :=
  decidable_of_iff ("" ∉ reasonCodes ∧ (status = .verified → reasonCodes = []) ∧
      (status = .verified → checks ≠ []) ∧
      (status = .verified → ∀ check ∈ checks, check.passed = true) ∧
      (status ≠ .verified → reasonCodes ≠ []))
    ⟨fun all => ⟨all.1, all.2.1, all.2.2.1, all.2.2.2.1, all.2.2.2.2⟩,
      fun shape => ⟨shape.reasonsFilled, shape.verifiedUnreasoned, shape.verifiedChecked,
        shape.verifiedPassed, shape.failureReasoned⟩⟩

variable (boundedSlice : BoundedSlice)

theorem slice_id_starts : Text.startsWith boundedSlice.sliceId "slice:" = true := by
  have valid := boundedSlice.sliceIdValid
  simp only [validId, Bool.and_eq_true] at valid
  exact valid.1.2

def verificationInvalid (message : String) : Raised :=
  .analyzer ⟨"ANALYSIS_GROWTH_VERIFICATION_INVALID", message, []⟩

/-- Builds the result under its stable identifier, through the constructor's checks. -/
def result (candidate : GrowthCandidate) (boundedSlice : BoundedSlice)
    (status : VerificationStatus) (reasonCodes : List String) (checks : List VerificationCheck) :
    Checked VerifiedGrowthResult :=
  if shape : ResultShape status reasonCodes checks then
    .ok {
      verifiedGrowthId := stableIdentifier "verified_growth" [
        ("growth_id", .str candidate.growthId), ("slice_id", .str boundedSlice.sliceId),
        ("status", .str status.text), ("reason_codes", .arr (reasonCodes.map .str)),
        ("checks", .arr (checks.map VerificationCheck.toDict))]
      growthId := candidate.growthId
      sliceId := boundedSlice.sliceId
      status, reasonCodes, checks
      candidate := some candidate
      idStarts := stable_identifier_starts "verified_growth" _
      growthIdStarts := candidate.growth_id_starts
      sliceIdStarts := slice_id_starts boundedSlice
      reasonsFilled := shape.reasonsFilled
      verifiedUnreasoned := shape.verifiedUnreasoned
      verifiedChecked := shape.verifiedChecked
      verifiedPassed := shape.verifiedPassed
      failureReasoned := shape.failureReasoned
      candidateMatches := fun growth same => by cases same; rfl }
  else if status = .verified then
    .error (verificationInvalid "Verified growth requires successful checks and no failure reasons.")
  else .error (verificationInvalid "Non-verified growth requires a reason.")

def passedCheck (name : String) : VerificationCheck := ⟨name, true, none⟩

def verifyGrowthContract (candidate : GrowthCandidate) (boundedSlice : BoundedSlice)
    (contract : GrowthContract) (index : StaticFactIndex) : Checked VerifiedGrowthResult :=
  if boundedSlice.growthId = candidate.growthId then
    match run (growthGates candidate boundedSlice contract index) with
    | (passed, none) => result candidate boundedSlice .verified [] (passed.map passedCheck)
    | (passed, some (name, status, reason)) =>
      result candidate boundedSlice status [reason]
        (passed.map passedCheck ++ [⟨name, false, some reason⟩])
  else .error (verificationInvalid "Growth verification inputs are incompatible.")

variable (candidate : GrowthCandidate)

theorem result_status (boundedSlice : BoundedSlice)
    (status : VerificationStatus) (reasonCodes : List String) (checks : List VerificationCheck)
    (built : VerifiedGrowthResult)
    (returned : result candidate boundedSlice status reasonCodes checks = .ok built) :
    built.status = status ∧ built.candidate = some candidate ∧
      built.growthId = candidate.growthId := by
  unfold result at returned
  split at returned
  · cases returned
    exact ⟨rfl, rfl, rfl⟩
  · split at returned <;> cases returned

section

variable (boundedSlice : BoundedSlice) (contract : GrowthContract) (index : StaticFactIndex)

theorem gate_failure_shape (gate : Gate (VerificationStatus × String))
    (member : gate ∈ growthGates candidate boundedSlice contract index)
    (status : VerificationStatus) (reason : String)
    (failed : gate.failure = some (status, reason)) : status ≠ .verified ∧ reason ≠ "" := by
  simp only [growthGates, List.mem_cons, List.not_mem_nil, or_false] at member
  rcases member with rfl | rfl | rfl | rfl | rfl | rfl | rfl | rfl | rfl | rfl | rfl | rfl | rfl |
      rfl | rfl | rfl | rfl <;> simp only [failUnless] at failed <;> split at failed <;>
    simp only [reduceCtorEq, Option.some.injEq, Prod.mk.injEq] at failed <;>
    rcases failed with ⟨rfl, rfl⟩ <;> decide

theorem verified_iff_gates_pass (built : VerifiedGrowthResult)
    (returned : verifyGrowthContract candidate boundedSlice contract index = .ok built) :
    built.status = .verified ↔
      ∀ gate ∈ growthGates candidate boundedSlice contract index, gate.failure = none := by
  rw [← run_passes_iff]
  unfold verifyGrowthContract at returned
  split at returned
  · split at returned
    · rename_i passed ran
      simp [ran, (result_status _ _ _ _ _ built returned).1]
    · rename_i passed name status reason ran
      have failed := congrArg Prod.snd ran
      rcases run_failed_mem _ name (status, reason) failed with ⟨gate, member, _, failure⟩
      have shape := gate_failure_shape _ _ _ _ gate member status reason failure
      simp [ran, (result_status _ _ _ _ _ built returned).1, shape.1]
  · cases returned

theorem verify_total (own : boundedSlice.growthId = candidate.growthId) :
    ∃ built, verifyGrowthContract candidate boundedSlice contract index = .ok built := by
  unfold verifyGrowthContract
  rw [if_pos own]
  split
  · rename_i passed ran
    have names : (growthGates candidate boundedSlice contract index).map Gate.name = passed := by
      rw [← run_passed_names _ (congrArg Prod.snd ran), ran]
    have shape : ResultShape .verified [] (passed.map passedCheck) := by
      refine ⟨by decide, fun _ => rfl, ?_, ?_, fun failed => absurd rfl failed⟩
      · simp [← names, growthGates]
      · simp [passedCheck]
    exact ⟨_, dif_pos shape⟩
  · rename_i passed name status reason ran
    rcases run_failed_mem _ name (status, reason) (congrArg Prod.snd ran) with
      ⟨gate, member, _, failure⟩
    have outcome := gate_failure_shape _ _ _ _ gate member status reason failure
    have shape : ResultShape status [reason]
        (passed.map passedCheck ++ [⟨name, false, some reason⟩]) := by
      refine ⟨by simpa using outcome.2.symm, ?_, ?_, ?_, by simp⟩ <;>
        exact fun verified => absurd verified outcome.1
    exact ⟨_, dif_pos shape⟩

end

theorem slice_lookup (identifier : String) (fact : StaticFact)
    (found : (sliceFacts boundedSlice).lookup identifier = some fact) :
    fact ∈ boundedSlice.payload.staticFacts ∧ fact.factId = identifier := by
  rcases List.lookup_eq_some_iff.mp found with ⟨front, back, split, _⟩
  have present : (identifier, fact) ∈ sliceFacts boundedSlice := by simp [split]
  rcases List.mem_map.mp present with ⟨held, member, same⟩
  cases same
  exact ⟨member, rfl⟩

/-- A required piece of evidence carries a value of the contract. -/
def Carries (contract : GrowthContract) (index : StaticFactIndex) (kind : StaticFactKind)
    (value : String) (accepted : FactRelation → Prop) : Prop :=
  ∃ identifier ∈ contract.requiredStaticEvidence, ∃ fact, index.lookup identifier = some fact ∧
    fact.kind = kind ∧ fact.normalizedValue = some value ∧ accepted fact.relation

variable (contract : GrowthContract)

theorem carriesFact_iff (index : StaticFactIndex)
    (kind : StaticFactKind) (value : String) (accepted : FactRelation → Bool) :
    carriesFact contract index kind value accepted = true ↔
      Carries contract index kind value (fun relation => accepted relation = true) := by
  simp only [carriesFact, Carries, List.any_eq_true]
  constructor
  · rintro ⟨identifier, member, carried⟩
    cases found : index.lookup identifier with
    | none => simp [found] at carried
    | some fact =>
      simp only [found, Bool.and_eq_true, decide_eq_true_eq] at carried
      exact ⟨identifier, member, fact, found, carried.1.1, carried.1.2, carried.2⟩
  · rintro ⟨identifier, member, fact, found, kinds, values, accepts⟩
    exact ⟨identifier, member, by simp [found, kinds, values, accepts]⟩

/-- What a verified contract rests on, in the terms of candidate, slice and index. -/
structure Substantiated (candidate : GrowthCandidate) (boundedSlice : BoundedSlice)
    (contract : GrowthContract) (index : StaticFactIndex) : Prop where
  coverageComplete : candidate.coverageStatus = .complete
  growthAsserted : contract.contractStatus = .dosRelevant ∧ contract.isResourceGrowth = .yes
  ownKind : contract.growthKind = some candidate.kind
  ownDimension : contract.resourceDimension = some candidate.resourceDimension
  evidenceCited : contract.requiredStaticEvidence ≠ [] ∧ contract.attackerInfluence ≠ []
  evidenceShared : ∀ identifier ∈ citedIds contract, ∃ fact ∈ boundedSlice.payload.staticFacts,
    fact.factId = identifier ∧ index.lookup identifier = some fact ∧
      ∃ excerpt ∈ boundedSlice.payload.sourceExcerpts, excerpt.excerptId = fact.locationRef
  influenceOrigin : ∀ influence ∈ contract.attackerInfluence,
    influence.target ∈ candidate.demandRoles ∧
      ∃ fact, index.lookup influence.evidenceId = some fact ∧
        (fact.kind = .flow ∨ fact.kind = .driverOrigin) ∧
        (fact.relation = .source ∨ fact.relation = .flowsTo) ∧
        ∃ origin ∈ requestOrigins, fact.normalizedValue = some origin
  valueSpaceCarried : Carries contract index .valueSpace contract.attackerValueSpace.text
    (fun relation => relation = .source ∨ relation = .flowsTo)
  retentionCarried : Carries contract index .retention contract.retentionWindow.text (· = .sink)
  amplificationCarried :
    Carries contract index .amplification contract.amplificationClass.text (· = .sink)

theorem lookups_of_mapped (index : StaticFactIndex) (mapped :
    evidenceMapped boundedSlice contract index = true)
    (identical : evidenceIdentical boundedSlice contract index = true) (identifier : String)
    (cited : identifier ∈ citedIds contract) : ∃ fact, index.lookup identifier = some fact ∧
      (sliceFacts boundedSlice).lookup identifier = some fact := by
  simp only [evidenceMapped, Bool.and_eq_true, List.all_eq_true, Option.isSome_iff_exists] at mapped
  simp only [evidenceIdentical, List.all_eq_true, decide_eq_true_eq] at identical
  rcases (mapped.2 identifier cited).2 with ⟨fact, found⟩
  exact ⟨fact, found, (identical identifier cited).symm.trans found⟩

theorem influence_cited (influence : AttackerInfluence)
    (member : influence ∈ contract.attackerInfluence) : influence.evidenceId ∈ citedIds contract :=
  List.mem_append_right _ (List.mem_map.mpr ⟨influence, member, rfl⟩)

variable (boundedSlice : BoundedSlice) (contract : GrowthContract)

theorem gates_pass_substantiated (index : StaticFactIndex)
    (passes : ∀ gate ∈ growthGates candidate boundedSlice contract index, gate.failure = none) :
    Substantiated candidate boundedSlice contract index := by
  simp only [growthGates, List.mem_cons, List.not_mem_nil, or_false, forall_eq_or_imp, forall_eq,
    failUnless_passes, decide_eq_true_eq] at passes
  obtain ⟨coverage, relevance, asserted, kind, dimension, _, _, _, _, mapped, located, identical,
    influenced, driven, valueSpace, retained, amplified⟩ := passes
  have lookups := lookups_of_mapped boundedSlice contract index mapped identical
  constructor
  case coverageComplete => exact coverage
  case growthAsserted =>
      cases status : contract.contractStatus <;> simp [status] at relevance
      cases answer : contract.isResourceGrowth <;> simp [answer] at asserted
      exact ⟨rfl, rfl⟩
  case ownKind => exact kind
  case ownDimension => exact dimension
  case evidenceCited =>
      simp only [evidenceMapped, Bool.and_eq_true, decide_eq_true_eq] at mapped
      refine ⟨mapped.1.1, ?_⟩
      intro empty
      exact mapped.1.2 (by simp [influenceIds, empty])
  case evidenceShared =>
      intro identifier cited
      rcases lookups identifier cited with ⟨fact, indexed, sliced⟩
      rcases slice_lookup boundedSlice identifier fact sliced with ⟨member, own⟩
      simp only [locationsAllowed, List.all_eq_true] at located
      have location := located identifier cited
      simp only [indexed, List.contains_iff_mem, List.mem_map] at location
      rcases location with ⟨excerpt, present, same⟩
      exact ⟨fact, member, own, indexed, excerpt, present, same⟩
  case influenceOrigin =>
      intro influence member
      rcases lookups _ (influence_cited contract influence member) with ⟨fact, indexed, sliced⟩
      simp only [influenceMapped, List.all_eq_true] at influenced
      simp only [driverMapped, List.all_eq_true] at driven
      have role := influenced influence member
      have origin := driven influence member
      simp only [indexed, sliced, originRelation, Bool.and_eq_true, List.contains_iff_mem,
        Bool.or_eq_true, decide_eq_true_eq] at role
      simp only [indexed, Bool.and_eq_true, Bool.or_eq_true, decide_eq_true_eq] at origin
      refine ⟨role.1, fact, indexed, origin.1, role.2.1, ?_⟩
      cases value : fact.normalizedValue with
      | none => simp [value] at origin
      | some text => exact ⟨text, by simpa [value] using origin.2, rfl⟩
  case valueSpaceCarried =>
      simpa [originRelation] using (carriesFact_iff _ _ _ _ _).mp valueSpace
  case retentionCarried => simpa using (carriesFact_iff _ _ _ _ _).mp retained
  case amplificationCarried => simpa using (carriesFact_iff _ _ _ _ _).mp amplified

/-- Every fact of the smaller index is a fact of the larger one under the same key. -/
def SubIndex (smaller larger : StaticFactIndex) : Prop :=
  ∀ identifier fact, smaller.lookup identifier = some fact → larger.lookup identifier = some fact

def removeFact (identifier : String) (index : StaticFactIndex) : StaticFactIndex :=
  index.filter fun pair => pair.1 ≠ identifier

theorem removeFact_subIndex (identifier : String) (index : StaticFactIndex) :
    SubIndex (removeFact identifier index) index := by
  intro other fact found
  induction index with
  | nil => exact found
  | cons pair index ih =>
    rcases pair with ⟨key, held⟩
    by_cases removed : key = identifier
    · have skipped : removeFact identifier ((key, held) :: index) = removeFact identifier index := by
        simp [removeFact, removed]
      rw [skipped] at found
      have different : other ≠ key := by
        rintro rfl
        rcases List.lookup_eq_some_iff.mp found with ⟨front, back, split, _⟩
        have present : (other, fact) ∈ removeFact identifier index := by simp [split]
        simp [removeFact, removed] at present
      rw [List.lookup_cons, beq_false_of_ne different]
      exact ih found
    · have kept : removeFact identifier ((key, held) :: index) =
          (key, held) :: removeFact identifier index := by simp [removeFact, removed]
      rw [kept, List.lookup_cons] at found
      rw [List.lookup_cons]
      cases same : other == key with
      | true => simpa [same] using found
      | false =>
        simp only [same] at found
        exact ih found

theorem carriesFact_grows (smaller larger : StaticFactIndex)
    (included : SubIndex smaller larger) (kind : StaticFactKind) (value : String)
    (accepted : FactRelation → Bool)
    (carried : carriesFact contract smaller kind value accepted = true) :
    carriesFact contract larger kind value accepted = true := by
  rw [carriesFact_iff] at carried ⊢
  rcases carried with ⟨identifier, member, fact, found, rest⟩
  exact ⟨identifier, member, fact, included identifier fact found, rest⟩

theorem gates_pass_grow (smaller larger : StaticFactIndex) (included : SubIndex smaller larger)
    (passes : ∀ gate ∈ growthGates candidate boundedSlice contract smaller, gate.failure = none) :
    ∀ gate ∈ growthGates candidate boundedSlice contract larger, gate.failure = none := by
  simp only [growthGates, List.mem_cons, List.not_mem_nil, or_false, forall_eq_or_imp, forall_eq,
    failUnless_passes] at passes ⊢
  obtain ⟨coverage, relevance, asserted, kind, dimension, mechanism, pressure, space, class',
    mapped, located, identical, influenced, driven, valueSpace, retained, amplified⟩ := passes
  have lookups := lookups_of_mapped boundedSlice contract smaller mapped identical
  have agrees : ∀ identifier ∈ citedIds contract,
      larger.lookup identifier = smaller.lookup identifier := by
    intro identifier cited
    rcases lookups identifier cited with ⟨fact, indexed, _⟩
    rw [indexed, included identifier fact indexed]
  have influences : ∀ influence ∈ contract.attackerInfluence,
      larger.lookup influence.evidenceId = smaller.lookup influence.evidenceId :=
    fun influence member => agrees _ (influence_cited contract influence member)
  refine ⟨coverage, relevance, asserted, kind, dimension, mechanism, pressure, space, class',
    ?_, ?_, ?_, ?_, ?_, carriesFact_grows _ _ _ included _ _ _ valueSpace,
    carriesFact_grows _ _ _ included _ _ _ retained,
    carriesFact_grows _ _ _ included _ _ _ amplified⟩
  · simp only [evidenceMapped, Bool.and_eq_true, List.all_eq_true] at mapped ⊢
    refine ⟨mapped.1, fun identifier cited => ?_⟩
    rw [agrees identifier cited]
    exact mapped.2 identifier cited
  · simp only [locationsAllowed, List.all_eq_true] at located ⊢
    intro identifier cited
    rw [agrees identifier cited]
    exact located identifier cited
  · simp only [evidenceIdentical, List.all_eq_true] at identical ⊢
    intro identifier cited
    rw [agrees identifier cited]
    exact identical identifier cited
  · simp only [influenceMapped, List.all_eq_true] at influenced ⊢
    intro influence member
    rw [influences influence member]
    exact influenced influence member
  · simp only [driverMapped, List.all_eq_true] at driven ⊢
    intro influence member
    rw [influences influence member]
    exact driven influence member

theorem carries_needs_fact (index : StaticFactIndex)
    (substantiated : Substantiated candidate boundedSlice contract index) (kind : StaticFactKind)
    (value : String) (accepted : FactRelation → Prop)
    (carried : Carries contract index kind value accepted) : (∃ pair ∈ index, pair.2.kind = kind) ∧
      ∃ fact ∈ boundedSlice.payload.staticFacts, fact.kind = kind := by
  rcases carried with ⟨identifier, required, fact, found, own, _⟩
  have cited : identifier ∈ citedIds contract := List.mem_append_left _ required
  rcases substantiated.evidenceShared identifier cited with ⟨shared, member, _, indexed, _⟩
  rw [found] at indexed
  cases indexed
  rcases List.lookup_eq_some_iff.mp found with ⟨front, back, split, _⟩
  exact ⟨⟨(identifier, fact), by simp [split], own⟩, fact, member, own⟩

/-- Only a substantiated contract verifies; without facts of the three claimed kinds in index
or slice none does, and removing a fact from the index never helps. -/
theorem verified_growth_substantiated (candidate : GrowthCandidate) (boundedSlice : BoundedSlice)
    (contract : GrowthContract) (index : StaticFactIndex) (built : VerifiedGrowthResult)
    (returned : verifyGrowthContract candidate boundedSlice contract index = .ok built) :
    (built.status = .verified → Substantiated candidate boundedSlice contract index) ∧
      (∀ kind ∈ [StaticFactKind.valueSpace, .retention, .amplification],
        (∀ pair ∈ index, pair.2.kind ≠ kind) ∨
          (∀ fact ∈ boundedSlice.payload.staticFacts, fact.kind ≠ kind) →
        built.status ≠ .verified) ∧
      ∀ identifier reduced, verifyGrowthContract candidate boundedSlice contract
          (removeFact identifier index) = .ok reduced →
        built.status ≠ .verified → reduced.status ≠ .verified := by
  have sound : built.status = .verified → Substantiated candidate boundedSlice contract index :=
    fun verified => gates_pass_substantiated _ _ _ _
      ((verified_iff_gates_pass _ _ _ _ built returned).mp verified)
  refine ⟨sound, ?_, ?_⟩
  · intro kind claimed absent verified
    have substantiated := sound verified
    have needed : (∃ pair ∈ index, pair.2.kind = kind) ∧
        ∃ fact ∈ boundedSlice.payload.staticFacts, fact.kind = kind := by
      simp only [List.mem_cons, List.not_mem_nil, or_false] at claimed
      rcases claimed with rfl | rfl | rfl
      · exact carries_needs_fact _ _ _ _ substantiated _ _ _ substantiated.valueSpaceCarried
      · exact carries_needs_fact _ _ _ _ substantiated _ _ _ substantiated.retentionCarried
      · exact carries_needs_fact _ _ _ _ substantiated _ _ _ substantiated.amplificationCarried
    rcases needed with ⟨⟨pair, indexed, own⟩, fact, member, same⟩
    rcases absent with unindexed | unsliced
    · exact unindexed pair indexed own
    · exact unsliced fact member same
  · intro identifier reduced reducedReturned unverified verified
    apply unverified
    rw [verified_iff_gates_pass _ _ _ _ reduced reducedReturned] at verified
    rw [verified_iff_gates_pass _ _ _ _ built returned]
    exact gates_pass_grow _ _ _ _ _ (removeFact_subIndex identifier index) verified

def sampleFact (identifier : String) (kind : StaticFactKind) (relation : FactRelation)
    (value : String) (valid : validId identifier "fact:" = true)
    (normalized : validNormalizedValue kind (some value) = true) : StaticFact :=
  ⟨identifier, kind, "excerpt:handler", relation, none, some value, valid, by decide,
    by simp, normalized⟩

def sampleFacts : List StaticFact := [
  sampleFact "fact:input" .flow .flowsTo "request_parameter" (by decide) (by decide),
  sampleFact "fact:space" .valueSpace .source "unlimited" (by decide) (by decide),
  sampleFact "fact:kept" .retention .sink "process" (by decide) (by decide),
  sampleFact "fact:class" .amplification .sink "high_cardinality_retention" (by decide)
    (by decide)]

def sampleSlice : BoundedSlice where
  sliceId := "slice:handler"
  payload := {
    entryId := "entry:handler"
    growthId := sampleCandidate.growthId
    sourceExcerpts := [⟨"excerpt:handler", by decide⟩]
    staticFacts := sampleFacts
    entryIdValid := by decide
    growthIdValid := by decide
    excerptsRequired := by decide
    excerptsBounded := by decide
    factsBounded := by decide
    excerptsDistinct := by decide
    factsDistinct := by decide
    locationsKnown := by decide
    valueRefsKnown := by simp [sampleFacts, sampleFact] }
  sliceIdValid := by decide

def sampleContract : GrowthContract where
  isResourceGrowth := .yes
  growthKind := some .containerGrowth
  resourceDimension := some .entries
  attackerInfluence := [⟨.key, "fact:input", by decide⟩]
  resourceEffect := .addsEntries
  attackerVariable := "token"
  attackerValueSpace := .unlimited
  growthUnit := "entry"
  growthFunction := "linear"
  amplificationClass := .highCardinalityRetention
  requestsToPressure := .many
  concurrencyModel := "repeated requests"
  retentionWindow := .process
  failureMechanism := .heapExhaustion
  failureSignal := "out of memory"
  requiredStaticEvidence := ["fact:space", "fact:kept", "fact:class"]
  contractStatus := .dosRelevant
  rejectionReason := .none
  confidence := .high
  influenceBounded := by decide
  evidenceBounded := by decide
  evidenceValid := by decide
  rejectionExplained := by decide
  relevanceUnrejected := by decide
  relevanceGrows := by decide
  unknownThroughout := by decide

theorem sample_returns : ∃ built, verifyGrowthContract sampleCandidate sampleSlice sampleContract
    (sliceFacts sampleSlice) = .ok built :=
  verify_total sampleCandidate sampleSlice sampleContract (sliceFacts sampleSlice) rfl

def sampleGrowth : VerifiedGrowthResult := returned _ sample_returns

theorem sample_growth_returned :
    verifyGrowthContract sampleCandidate sampleSlice sampleContract (sliceFacts sampleSlice) =
      .ok sampleGrowth := returned_ok _ sample_returns

theorem sample_growth_verified : sampleGrowth.status = .verified := by
  rw [verified_iff_gates_pass _ _ _ _ _ sample_growth_returned]
  decide

theorem verified_growth_substantiated_sample : sampleGrowth.status = .verified ∧
      Substantiated sampleCandidate sampleSlice sampleContract (sliceFacts sampleSlice) :=
  ⟨sample_growth_verified,
    (verified_growth_substantiated _ _ _ _ _ sample_growth_returned).1 sample_growth_verified⟩

end DosWeb.Growth
