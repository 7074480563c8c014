import DosWeb.Llm.CacheEntries

/-!
The contracts of the cache: a contract that was written is read as it was, whatever the order of
its members.
-/

namespace DosWeb.Llm.Cache

open Library Library.JsonValue Library.JsonRecord
open Library.OrderedSet Growth

variable {F : Type}

theorem field_set_normalize (members : Members F) :
    fieldSet (normalizeMembers members) = fieldSet members := by
  apply sortedSet_congr
  intro key
  exact (normalizeMembers_keys_perm members).mem_iff

theorem field_normalize (members : Members F) (distinct : (members.map Prod.fst).Nodup)
    (key : String) : field key (.obj (normalizeMembers members)) =
      (field key (.obj members)).map JsonValue.normalize := present_normalize members distinct key

theorem enum_normalize {α : Type} (names : List α) (text : α → String) (members : Members F)
    (distinct : (members.map Prod.fst).Nodup) (key : String) :
    contractEnum names text (.obj (normalizeMembers members)) key =
      contractEnum names text (.obj members) key := by
  unfold contractEnum
  rw [field_normalize members distinct key]
  cases field key (.obj members) with
  | none => rfl
  | some value => cases value <;> rfl

theorem text_normalize (members : Members F) (distinct : (members.map Prod.fst).Nodup)
    (key : String) :
    contractText (.obj (normalizeMembers members)) key = contractText (.obj members) key := by
  unfold contractText
  rw [field_normalize members distinct key]
  cases field key (.obj members) with
  | none => rfl
  | some value => cases value <;> rfl

theorem cited_normalize (items : List (Json F)) :
    citedItems (normalizeItems items) = citedItems items := by
  induction items with
  | nil => rfl
  | cons item items ih => cases item <;> simp [normalizeItems, JsonValue.normalize, citedItems, ih]

theorem ids_normalize (members : Members F) (distinct : (members.map Prod.fst).Nodup)
    (key : String) (limit : Nat) : contractIds (.obj (normalizeMembers members)) key limit =
      contractIds (.obj members) key limit := by
  unfold contractIds
  rw [field_normalize members distinct key]
  cases field key (.obj members) with
  | none => rfl
  | some value =>
    cases value with
    | arr items =>
      have length : (normalizeItems items).length = items.length := by
        rw [normalizeItems_eq_map, List.length_map]
      simp only [Option.map_some, JsonValue.normalize, cited_normalize, length]
    | _ => rfl

theorem influence_normalize (item : Json F) (distinct : DistinctKeys item) :
    influenceItem (JsonValue.normalize item) = influenceItem item := by
  cases item with
  | obj members =>
    unfold influenceItem
    simp only [JsonValue.normalize, objectOf, Option.any_some, field_set_normalize,
      enum_normalize _ _ members distinct.1, field_normalize members distinct.1]
    cases field "evidence_id" (.obj members) with
    | none => rfl
    | some value => cases value <;> rfl
  | _ => rfl

theorem each_influence_normalize (items : List (Json F))
    (distinct : ∀ item ∈ items, DistinctKeys item) :
    (items.map JsonValue.normalize).mapM influenceItem = items.mapM influenceItem := by
  induction items with
  | nil => rfl
  | cons item items ih =>
    obtain ⟨own, others⟩ := List.forall_mem_cons.mp distinct
    rw [List.map_cons, List.mapM_cons, List.mapM_cons, influence_normalize item own, ih others]

theorem influences_normalize (members : Members F) (distinct : DistinctKeys (.obj members)) :
    influenceItems (.obj (normalizeMembers members)) = influenceItems (.obj members) := by
  unfold influenceItems
  rw [field_normalize members distinct.1]
  have own := get_distinct members distinct "attacker_influence"
  rw [JsonRecord.get, present] at own
  cases found : field "attacker_influence" (.obj members) with
  | none => rfl
  | some value =>
    rw [found] at own
    cases value with
    | arr items =>
      have each := (distinctItems_iff items).mp own
      simp only [Option.map_some, JsonValue.normalize, normalizeItems_eq_map, List.length_map,
        each_influence_normalize items each]
    | _ => rfl

variable (discloses : String → Bool)

theorem validate_normalize (members : Members F) (distinct : DistinctKeys (.obj members)) :
    validateGrowthContract discloses (.obj (normalizeMembers members)) =
      validateGrowthContract discloses (.obj members) := by
  unfold validateGrowthContract
  simp only [objectOf, Option.any_some, field_set_normalize, enum_normalize _ _ members distinct.1,
    text_normalize members distinct.1, ids_normalize members distinct.1,
    influences_normalize members distinct]

theorem enum_named {α : Type} (names : List α) (text : α → String) (payload : Json F)
    (key : String) (name : α) (held : field key payload = some (.str (text name)))
    (inside : name ∈ names) (apart : ∀ other ∈ names, text other = text name → other = name) :
    contractEnum names text payload key = .ok name := by
  have found : names.find? (fun item => text item = text name) = some name :=
    named_text (F := F) names text name inside apart
  simp only [contractEnum, held, found]

theorem text_held (payload : Json F) (key value : String)
    (held : field key payload = some (.str value)) (free : freeText discloses value = true) :
    contractText payload key = .ok value := by
  simp only [freeText, Bool.and_eq_true, decide_eq_true_eq] at free
  obtain ⟨⟨⟨⟨⟨filled, short⟩, _⟩, _⟩, _⟩, _⟩ := free
  simp only [contractText, held]
  exact if_pos ⟨filled, short⟩

theorem cited_texts (identifiers : List String)
    (short : ∀ identifier ∈ identifiers, (Text.utf8 identifier.toList).length ≤ 256) :
    citedItems (identifiers.map .str : List (Json F)) = .ok identifiers := by
  induction identifiers with
  | nil => rfl
  | cons identifier identifiers ih =>
    obtain ⟨own, others⟩ := List.forall_mem_cons.mp short
    simp only [List.map_cons, citedItems, ih others]
    rw [(require_ok _ _ ()).mpr (decide_eq_true own)]
    rfl

theorem valid_short (identifier lead : String) (valid : validId identifier lead = true) :
    (Text.utf8 identifier.toList).length ≤ 256 := by
  simp only [validId, Bool.and_eq_true, decide_eq_true_eq] at valid
  exact valid.1.1

theorem influence_held (influence : AttackerInfluence) :
    influenceItem (influenceDict influence : Json F) = .ok influence := by
  obtain ⟨target, evidenceId, valid⟩ := influence
  have short := valid_short evidenceId "fact:" valid
  have named : contractEnum influenceTargets DemandRole.text
      (influenceDict ⟨target, evidenceId, valid⟩ : Json F) "target" = .ok target := by
    apply enum_named
    · rfl
    · cases target <;> decide
    · exact fun other _ same => DemandRole.text_injective other target same
  have fields : ((objectOf (influenceDict ⟨target, evidenceId, valid⟩ : Json F)).any fun members =>
      fieldSet members = ["evidence_id", "target"]) = true := by
    simp only [influenceDict, objectOf, Option.any_some, fieldSet, List.map_cons, List.map_nil]
    decide
  have evidence : field "evidence_id" (influenceDict ⟨target, evidenceId, valid⟩ : Json F) =
      some (.str evidenceId) := rfl
  simp only [influenceItem, named, evidence, (require_ok _ _ ()).mpr fields,
    (require_ok (byteLength evidenceId ≤ 256) _ ()).mpr (decide_eq_true short), valid, bind,
    Except.bind, dif_pos]

theorem influences_held (influences : List AttackerInfluence) :
    (influences.map influenceDict : List (Json F)).mapM influenceItem = .ok influences := by
  apply mapM_ok.mpr
  apply List.forall₂_map_left_iff.mpr
  exact List.forall₂_same.mpr fun influence _ => influence_held influence

theorem validate_held (contract : Contract discloses) :
    validateGrowthContract discloses (contractDict contract.val : Json F) = .ok contract := by
  obtain ⟨contract, free⟩ := contract
  have each := List.all_eq_true.mp free
  have text (key value : String) (inside : value ∈ freeTexts contract)
      (held : field key (contractDict contract : Json F) = some (.str value)) :
      contractText (contractDict contract : Json F) key = .ok value :=
    text_held discloses _ key value held (each value inside)
  have fields : ((objectOf (contractDict contract : Json F)).any fun members =>
      fieldSet members = contractKeys) = true := by
    simp only [contractDict, objectOf, Option.any_some, fieldSet, List.map_cons, List.map_nil]
    decide
  have evidence : contractIds (contractDict contract : Json F) "required_static_evidence" 32 =
      .ok contract.requiredStaticEvidence := by
    have held : field "required_static_evidence" (contractDict contract : Json F) =
        some (.arr (contract.requiredStaticEvidence.map .str)) := rfl
    have short : ∀ identifier ∈ contract.requiredStaticEvidence,
        (Text.utf8 identifier.toList).length ≤ 256 := fun identifier inside =>
      valid_short identifier "fact:" (contract.evidenceValid identifier inside)
    have few : decide ((contract.requiredStaticEvidence.map (Json.str (F := F))).length ≤ 32) =
        true := by
      rw [List.length_map]
      exact decide_eq_true contract.evidenceBounded
    simp only [contractIds, held, cited_texts _ short, (require_ok _ _ ()).mpr few, bind, Except.bind]
  have influences : influenceItems (contractDict contract : Json F) =
      .ok contract.attackerInfluence := by
    have held : field "attacker_influence" (contractDict contract : Json F) =
        some (.arr (contract.attackerInfluence.map influenceDict)) := rfl
    have few : decide ((contract.attackerInfluence.map (influenceDict (F := F))).length ≤ 16) =
        true := by
      rw [List.length_map]
      exact decide_eq_true contract.influenceBounded
    simp only [influenceItems, held, influences_held, (require_ok _ _ ()).mpr few, bind, Except.bind]
  have bounded : contract.attackerInfluence.length ≤ 16 ∧
      contract.requiredStaticEvidence.length ≤ 32 ∧
        ∀ identifier ∈ contract.requiredStaticEvidence, validId identifier "fact:" = true :=
    ⟨contract.influenceBounded, contract.evidenceBounded, contract.evidenceValid⟩
  have allowed : statusAllowed contract.contractStatus contract.rejectionReason
      contract.isResourceGrowth :=
    ⟨contract.rejectionExplained, contract.relevanceUnrejected, contract.relevanceGrows,
      contract.unknownThroughout⟩
  refine bind_ok.mpr ⟨(), (require_ok _ _ ()).mpr fields, bind_ok.mpr ⟨contract.isResourceGrowth,
    ?growth, bind_ok.mpr ⟨contract.growthKind, ?kind, bind_ok.mpr ⟨contract.resourceDimension,
    ?dimension, bind_ok.mpr ⟨contract.confidence, ?confidence, bind_ok.mpr ⟨contract.resourceEffect,
    ?effect, bind_ok.mpr ⟨contract.attackerValueSpace, ?space, bind_ok.mpr
    ⟨contract.amplificationClass, ?amplification, bind_ok.mpr ⟨contract.requestsToPressure,
    ?requests, bind_ok.mpr ⟨contract.retentionWindow, ?retention, bind_ok.mpr
    ⟨contract.failureMechanism, ?failure, bind_ok.mpr ⟨contract.contractStatus, ?status,
    bind_ok.mpr ⟨contract.rejectionReason, ?rejection, ?rest⟩⟩⟩⟩⟩⟩⟩⟩⟩⟩⟩⟩⟩
  case kind =>
    rcases shape : contract.growthKind with _ | member
    · exact enum_named _ _ _ _ none (by simp [contractDict, field, shape]) (by decide) (by decide)
    · apply enum_named _ _ _ _ (some member) (by simp [contractDict, field, shape]) <;>
        cases member <;> decide
  case dimension =>
    rcases shape : contract.resourceDimension with _ | member
    · exact enum_named _ _ _ _ none (by simp [contractDict, field, shape]) (by decide) (by decide)
    · apply enum_named _ _ _ _ (some member) (by simp [contractDict, field, shape]) <;>
        cases member <;> decide
  case growth => apply enum_named _ _ _ _ _ rfl <;> cases contract.isResourceGrowth <;> decide
  case confidence => apply enum_named _ _ _ _ _ rfl <;> cases contract.confidence <;> decide
  case effect => apply enum_named _ _ _ _ _ rfl <;> cases contract.resourceEffect <;> decide
  case space => apply enum_named _ _ _ _ _ rfl <;> cases contract.attackerValueSpace <;> decide
  case amplification =>
    apply enum_named _ _ _ _ _ rfl <;> cases contract.amplificationClass <;> decide
  case requests => apply enum_named _ _ _ _ _ rfl <;> cases contract.requestsToPressure <;> decide
  case retention => apply enum_named _ _ _ _ _ rfl <;> cases contract.retentionWindow <;> decide
  case failure => apply enum_named _ _ _ _ _ rfl <;> cases contract.failureMechanism <;> decide
  case status => apply enum_named _ _ _ _ _ rfl <;> cases contract.contractStatus <;> decide
  case rejection => apply enum_named _ _ _ _ _ rfl <;> cases contract.rejectionReason <;> decide
  case rest =>
    simp only [text "attacker_variable" contract.attackerVariable (by simp [freeTexts]) rfl,
      text "growth_unit" contract.growthUnit (by simp [freeTexts]) rfl,
      text "growth_function" contract.growthFunction (by simp [freeTexts]) rfl,
      text "concurrency_model" contract.concurrencyModel (by simp [freeTexts]) rfl,
      text "failure_signal" contract.failureSignal (by simp [freeTexts]) rfl,
      influences, evidence, bind, Except.bind, allowed, free, dif_pos]
    exact dif_pos bounded

theorem contract_distinct (contract : GrowthContract) :
    DistinctKeys (contractDict contract : Json F) := by
  have influences : DistinctItems (contract.attackerInfluence.map (influenceDict (F := F))) := by
    apply (distinctItems_iff _).mpr
    intro item inside
    obtain ⟨influence, _, same⟩ := List.mem_map.mp inside
    rw [← same]
    exact ⟨by simp, trivial, trivial, trivial⟩
  have evidence : DistinctItems (contract.requiredStaticEvidence.map (Json.str (F := F))) := by
    apply (distinctItems_iff _).mpr
    intro item inside
    obtain ⟨identifier, _, same⟩ := List.mem_map.mp inside
    rw [← same]
    trivial
  simp +decide [contractDict, DistinctKeys, DistinctMembers, influences, evidence]

theorem contract_read (contract : Contract discloses) : validateGrowthContract discloses
      (JsonValue.normalize (contractDict contract.val : Json F)) = .ok contract :=
  (validate_normalize discloses _ (contract_distinct contract.val)).trans
    (validate_held discloses contract)

end DosWeb.Llm.Cache
