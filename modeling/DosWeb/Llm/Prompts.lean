import DosWeb.Growth.BoundShape
import DosWeb.Library.Aliases
import DosWeb.Library.Mapping
import DosWeb.Library.Owners
import DosWeb.Llm.Replies

/-!
The prompt of a slice, whose facts stand under aliases, and the contract that an answer in these
aliases is bound to.
-/

namespace DosWeb.Llm

open Library Library.JsonText
open Library.JsonRecord (put)
open Library.Grouping (lookup_iff erase_dups_nodup forall_related forall_through)
open Library.Aliases
open Library.Owners (reads_mapM)
open Growth

section

/-- A configuration fact of any slice; one that no configuration declares has no identifier. -/
structure SliceConfig where
  kind : ConfigKind
  normalizedValue : String ⊕ Int
  sourceLocationRef : String
  configId : Option String

def SliceConfig.toDict (fact : SliceConfig) : PlainJson :=
  .obj [("kind", .str fact.kind.text), ("normalized_value", configValueDict fact.normalizedValue),
    ("source_location_ref", .str fact.sourceLocationRef), ("config_id", optionalText fact.configId)]

/-- A bounded slice with the parts of its payload that the prompt shows. -/
structure PromptSlice where
  boundedSlice : BoundedSlice
  sourceExcerpts : List AttestedExcerpt
  cfgSummary : CfgSummary
  registrationFacts : List RegistrationEvidence
  configFacts : List SliceConfig
  excerptsSame : boundedSlice.payload.sourceExcerpts = sourceExcerpts.map AttestedExcerpt.reference
  pathsDistinct : cfgSummary.pathIds.Nodup
  branchesKnown : ∀ id ∈ cfgSummary.branchFacts,
    id ∈ boundedSlice.payload.staticFacts.map StaticFact.factId
  registrationsKnown : ∀ fact ∈ registrationFacts, fact.locationRef ∈ excerptIds sourceExcerpts
  configIdsValid : ∀ fact ∈ configFacts, ∀ id, fact.configId = some id → validId id "config:" = true
  configKnown : ∀ fact ∈ configFacts, fact.sourceLocationRef ∈ excerptIds sourceExcerpts ∨
    fact.configId = some fact.sourceLocationRef

/-- The texts around a slice, the same for every prompt. -/
structure PromptTexts where
  systemMessage : String
  correctionInvariants : String
  responseSchemaVersion : String
  responseSchema : PlainJson

structure EvidenceOption where
  evidenceId : String
  attackerTarget : String
  deriving DecidableEq

def EvidenceOption.toDict (option : EvidenceOption) : PlainJson :=
  .obj [("evidence_id", .str option.evidenceId), ("attacker_target", .str option.attackerTarget)]

structure ProviderPayload where
  messages : List (String × String)
  factAliasToOriginal : List (String × String)

def replaced (updates : List (String × PlainJson)) : PlainJson → PlainJson
  | .obj members => .obj (updates.foldl (fun record update => put update.1 update.2 record) members)
  | other => other

/-- The distinct targets that the records give under a fact. -/
def attackerTargets (facts : List StaticFact) (factId : String) : List String :=
  ((facts.filter fun item =>
    item.kind.text = "attacker_target" && item.valueRef = some factId).filterMap
      StaticFact.normalizedValue).dedup

def offeredTarget (facts : List StaticFact) (item : StaticFact) : Option String :=
  match attackerTargets facts item.factId with
  | [target] =>
    if item.kind.text ∈ ["flow", "driver_origin"] ∧
        item.relation.text ∈ ["source", "flows_to"] then some target
    else none
  | _ => none

variable (texts : PromptTexts) (slice : PromptSlice)

def PromptSlice.facts : List StaticFact := slice.boundedSlice.payload.staticFacts

def PromptSlice.factIds : List String := slice.facts.map StaticFact.factId

def PromptSlice.excerptAliases : List (String × String) :=
  aliases "excerpt:" "" (excerptIds slice.sourceExcerpts)

def PromptSlice.fileAliases : List (String × String) := aliases "source/" ".java"
    (slice.sourceExcerpts.map AttestedExcerpt.repoRelativePath).eraseDups

def PromptSlice.factAliases : List (String × String) := aliases "fact:" "" slice.factIds

def PromptSlice.pathAliases : List (String × String) := aliases "path:" "" slice.cfgSummary.pathIds

def PromptSlice.configAliases : List (String × String) :=
  aliases "config:" "" (slice.configFacts.filterMap SliceConfig.configId).eraseDups

def attackerEvidenceOptions : Option (List EvidenceOption) :=
  (slice.facts.filterMap fun item => (offeredTarget slice.facts item).map fun target =>
    (item, target)).mapM fun offered => do
      let name ← slice.factAliases.lookup offered.1.factId
      return ⟨name, offered.2⟩

def aliasedExcerpt (item : AttestedExcerpt) : Option PlainJson := do
  let name ← slice.excerptAliases.lookup item.excerptId
  let file ← slice.fileAliases.lookup item.repoRelativePath
  return replaced [("excerpt_id", .str name), ("repo_relative_path", .str file)] item.toDict

def aliasedFact (item : StaticFact) : Option PlainJson := do
  let name ← slice.factAliases.lookup item.factId
  let location ← slice.excerptAliases.lookup item.locationRef
  return replaced [("fact_id", .str name), ("location_ref", .str location),
    ("value_ref", optionalText (item.valueRef.bind fun id => slice.factAliases.lookup id))]
    item.values.toDict

def aliasedRegistration (item : RegistrationEvidence) : Option PlainJson := do
  let location ← slice.excerptAliases.lookup item.locationRef
  return replaced [("location_ref", .str location)] item.toDict

def aliasedConfig (item : SliceConfig) : Option PlainJson := do
  let location ←
    if Text.startsWith item.sourceLocationRef "excerpt:" then
      slice.excerptAliases.lookup item.sourceLocationRef
    else slice.configAliases.lookup item.sourceLocationRef
  return replaced [("config_id", optionalText (item.configId.bind fun id =>
      slice.configAliases.lookup id)), ("source_location_ref", .str location)] item.toDict

/-- The record of the slice under aliases; a reference without one is a key error. -/
def aliasedSlice : Option PlainJson := do
  let sourceExcerpts ← slice.sourceExcerpts.mapM (aliasedExcerpt slice)
  let staticFacts ← slice.facts.mapM (aliasedFact slice)
  let pathIds ← slice.cfgSummary.pathIds.mapM fun id => slice.pathAliases.lookup id
  let branchFacts ← slice.cfgSummary.branchFacts.mapM fun id => slice.factAliases.lookup id
  let registrationFacts ← slice.registrationFacts.mapM (aliasedRegistration slice)
  let configFacts ← slice.configFacts.mapM (aliasedConfig slice)
  return .obj [("entry_id", .str "entry:1"), ("growth_id", .str "growth:1"),
    ("source_excerpts", .arr sourceExcerpts), ("static_facts", .arr staticFacts),
    ("cfg_summary", .obj [("path_ids", .arr (pathIds.map .str)),
      ("phases", .arr (slice.cfgSummary.phases.map .str)),
      ("branch_facts", .arr (branchFacts.map .str))]),
    ("registration_facts", .arr registrationFacts), ("config_facts", .arr configFacts)]

def userContent (options : List EvidenceOption) (bounded : PlainJson) : String :=
  String.ofList (render (JsonValue.normalize (.obj [
    ("response_schema_version", .str texts.responseSchemaVersion),
    ("response_schema", texts.responseSchema),
    ("attacker_evidence_options", .arr (options.map EvidenceOption.toDict)),
    ("bounded_slice", bounded)])))

def buildProviderPayload : Option ProviderPayload := do
  let options ← attackerEvidenceOptions slice
  let bounded ← aliasedSlice slice
  return {
    messages := [("system", texts.systemMessage), ("user", userContent texts options bounded)]
    factAliasToOriginal := slice.factAliases.map Prod.swap }

def buildGrowthCorrectionPayload : Option ProviderPayload := do
  let initial ← buildProviderPayload texts slice
  let user ← initial.messages[1]?
  return {
    messages := [("system", texts.systemMessage ++ texts.correctionInvariants), user]
    factAliasToOriginal := initial.factAliasToOriginal }

end

section

theorem option_map_total {α β : Type} (step : α → Option β) (items : List α)
    (each : ∀ item ∈ items, ∃ result, step item = some result) :
    ∃ results, items.mapM step = some results := by
  induction items with
  | nil => exact ⟨[], rfl⟩
  | cons item items ih =>
    obtain ⟨result, own⟩ := each item (.head _)
    obtain ⟨results, rest⟩ := ih fun other member => each other (.tail _ member)
    refine ⟨result :: results, ?_⟩
    rw [List.mapM_cons, own, rest]
    rfl

variable (texts : PromptTexts) (slice : PromptSlice)

theorem fact_ids_distinct : slice.factIds.Nodup := slice.boundedSlice.payload.factsDistinct

theorem excerpt_ids_distinct : (excerptIds slice.sourceExcerpts).Nodup := by
  have distinct := slice.boundedSlice.payload.excerptsDistinct
  rw [slice.excerptsSame, reference_ids] at distinct
  exact distinct

theorem excerpt_named (id : String) (member : id ∈ excerptIds slice.sourceExcerpts) :
    ∃ name, slice.excerptAliases.lookup id = some name :=
  item_named "excerpt:" "" _ (excerpt_ids_distinct slice) id member

theorem fact_named (id : String) (member : id ∈ slice.factIds) :
    ∃ name, slice.factAliases.lookup id = some name :=
  item_named "fact:" "" _ (fact_ids_distinct slice) id member

theorem excerpt_lead (id : String) (member : id ∈ excerptIds slice.sourceExcerpts) :
    Text.startsWith id "excerpt:" = true := by
  obtain ⟨excerpt, -, rfl⟩ := List.mem_map.mp member
  have valid := excerpt.excerptIdValid
  simp only [validId, Bool.and_eq_true] at valid
  exact valid.1.2

theorem config_lead (id : String) (valid : validId id "config:" = true) :
    Text.startsWith id "excerpt:" = false := by
  simp only [validId, Bool.and_eq_true] at valid
  obtain ⟨rest, whole⟩ := List.isPrefixOf_iff_prefix.mp valid.1.2
  rw [Text.startsWith, ← whole]
  rfl

theorem options_total : ∃ options, attackerEvidenceOptions slice = some options := by
  apply option_map_total
  rintro ⟨item, target⟩ member
  obtain ⟨own, inside, same⟩ := List.mem_filterMap.mp member
  obtain ⟨_, -, pair⟩ := Option.map_eq_some_iff.mp same
  cases pair
  obtain ⟨name, found⟩ := fact_named slice item.factId (List.mem_map_of_mem inside)
  exact ⟨⟨name, target⟩, by simp [found]⟩

theorem aliased_slice_total : ∃ bounded, aliasedSlice slice = some bounded := by
  have excerpts : ∀ item ∈ slice.sourceExcerpts, ∃ result,
      aliasedExcerpt slice item = some result := by
    intro item member
    obtain ⟨name, found⟩ := excerpt_named slice item.excerptId (List.mem_map_of_mem member)
    obtain ⟨file, placed⟩ := item_named "source/" ".java" _ (erase_dups_nodup _)
      item.repoRelativePath (List.mem_eraseDups.mpr (List.mem_map_of_mem member))
    exact ⟨_, by simp only [aliasedExcerpt, found, PromptSlice.fileAliases, placed]; rfl⟩
  have facts : ∀ item ∈ slice.facts, ∃ result, aliasedFact slice item = some result := by
    intro item member
    obtain ⟨name, found⟩ := fact_named slice item.factId (List.mem_map_of_mem member)
    have located := slice.boundedSlice.payload.locationsKnown item member
    rw [slice.excerptsSame, reference_ids] at located
    obtain ⟨location, placed⟩ := excerpt_named slice item.locationRef located
    exact ⟨_, by simp only [aliasedFact, found, placed]; rfl⟩
  have paths : ∀ id ∈ slice.cfgSummary.pathIds, ∃ name, slice.pathAliases.lookup id = some name :=
    fun id member => item_named "path:" "" _ slice.pathsDistinct id member
  have branches : ∀ id ∈ slice.cfgSummary.branchFacts, ∃ name,
      slice.factAliases.lookup id = some name :=
    fun id member => fact_named slice id (slice.branchesKnown id member)
  have registrations : ∀ item ∈ slice.registrationFacts, ∃ result,
      aliasedRegistration slice item = some result := by
    intro item member
    obtain ⟨location, placed⟩ := excerpt_named slice item.locationRef
      (slice.registrationsKnown item member)
    exact ⟨_, by simp only [aliasedRegistration, placed]; rfl⟩
  have configs : ∀ item ∈ slice.configFacts, ∃ result, aliasedConfig slice item = some result := by
    intro item member
    rcases slice.configKnown item member with inside | own
    · obtain ⟨location, placed⟩ := excerpt_named slice item.sourceLocationRef inside
      exact ⟨_, by simp only [aliasedConfig, excerpt_lead slice _ inside, if_true, placed]; rfl⟩
    · have declared : item.sourceLocationRef ∈
          (slice.configFacts.filterMap SliceConfig.configId).eraseDups :=
        List.mem_eraseDups.mpr (List.mem_filterMap.mpr ⟨item, member, own⟩)
      obtain ⟨location, placed⟩ := item_named "config:" "" _ (erase_dups_nodup _)
        item.sourceLocationRef declared
      have other := config_lead item.sourceLocationRef (slice.configIdsValid item member _ own)
      exact ⟨_, by
        simp only [aliasedConfig, other, Bool.false_eq_true, if_false, PromptSlice.configAliases,
          placed]
        rfl⟩
  obtain ⟨_, one⟩ := option_map_total _ _ excerpts
  obtain ⟨_, two⟩ := option_map_total _ _ facts
  obtain ⟨_, three⟩ := option_map_total _ _ paths
  obtain ⟨_, four⟩ := option_map_total _ _ branches
  obtain ⟨_, five⟩ := option_map_total _ _ registrations
  obtain ⟨_, six⟩ := option_map_total _ _ configs
  exact ⟨_, by simp only [aliasedSlice, one, two, three, four, five, six]; rfl⟩

theorem prompts_total : ∃ options bounded payload correction,
    attackerEvidenceOptions slice = some options ∧ buildProviderPayload texts slice = some payload ∧
    buildGrowthCorrectionPayload texts slice = some correction ∧
    payload.messages = [("system", texts.systemMessage),
      ("user", userContent texts options bounded)] ∧
    payload.factAliasToOriginal = originals "fact:" "" slice.factIds ∧
    correction.factAliasToOriginal = originals "fact:" "" slice.factIds := by
  obtain ⟨options, offered⟩ := options_total slice
  obtain ⟨bounded, shown⟩ := aliased_slice_total slice
  have built : buildProviderPayload texts slice = some ⟨[("system", texts.systemMessage),
      ("user", userContent texts options bounded)], slice.factAliases.map Prod.swap⟩ := by
    simp only [buildProviderPayload, offered, shown]
    rfl
  have corrected : buildGrowthCorrectionPayload texts slice = some
      ⟨[("system", texts.systemMessage ++ texts.correctionInvariants),
        ("user", userContent texts options bounded)], slice.factAliases.map Prod.swap⟩ := by
    simp only [buildGrowthCorrectionPayload, built]
    rfl
  exact ⟨options, bounded, _, _, offered, built, corrected, rfl, rfl, rfl⟩

end

section

theorem restored_iff (aliases : List (String × String)) (some_ : aliases ≠ [])
    (names items : List String) : restoreAll aliases names = .ok items ↔
      List.Forall₂ (fun name item => aliases.lookup name = some item) names items := by
  induction names generalizing items with
  | nil =>
    rw [List.forall₂_nil_left_iff, restoreAll, Except.ok.injEq]
    exact eq_comm
  | cons name names ih =>
    rw [restoreAll, if_neg some_, List.forall₂_cons_left_iff]
    cases found : aliases.lookup name with
    | none =>
      constructor
      · intro run
        cases run
      · rintro ⟨_, _, own, -⟩
        cases own
    | some item =>
      simp only [ok_bind, bind_ok, ih]
      constructor
      · rintro ⟨others, related, same⟩
        exact ⟨item, others, rfl, related, (Except.ok.inj same).symm⟩
      · rintro ⟨own, others, same, related, whole⟩
        cases same
        exact ⟨others, related, congrArg _ whole.symm⟩

variable (facts : List StaticFact)

theorem influences_iff (ids : List String) (influences : List AttackerInfluence) :
    influencesOf facts ids = .ok influences ↔
      List.Forall₂ (fun id influence => influenceOf facts id = .ok influence) ids influences := by
  induction ids generalizing influences with
  | nil =>
    rw [List.forall₂_nil_left_iff, influencesOf, Except.ok.injEq]
    exact eq_comm
  | cons id ids ih =>
    rw [influencesOf, List.forall₂_cons_left_iff]
    simp only [bind_ok, ih]
    constructor
    · rintro ⟨influence, own, others, related, same⟩
      exact ⟨influence, others, own, related, (Except.ok.inj same).symm⟩
    · rintro ⟨influence, others, own, related, whole⟩
      exact ⟨influence, own, others, related, congrArg _ whole.symm⟩

theorem target_kind (kind : StaticFactKind) :
    kind.text = "attacker_target" ↔ kind = .attackerTarget := by
  cases kind <;> decide

theorem targets_same (factId : String) : attackerTargets facts factId = targetsOf facts factId := by
  simp only [attackerTargets, targetsOf, target_kind]

theorem traces_iff (item : StaticFact) :
    (item.kind.text ∈ ["flow", "driver_origin"] ∧ item.relation.text ∈ ["source", "flows_to"]) ↔
      tracesInput item = true := by
  have kinds : item.kind.text ∈ ["flow", "driver_origin"] ↔
      (item.kind = .flow || item.kind = .driverOrigin) = true := by
    cases item.kind <;> decide
  have relations : item.relation.text ∈ ["source", "flows_to"] ↔
      (item.relation = .source || item.relation = .flowsTo) = true := by
    cases item.relation <;> decide
  rw [kinds, relations, tracesInput, Bool.and_eq_true]

theorem offered_iff (item : StaticFact) (target : String) : offeredTarget facts item = some target ↔
      targetsOf facts item.factId = [target] ∧ tracesInput item = true := by
  unfold offeredTarget
  rw [targets_same]
  split
  · rename_i own found
    rw [found]
    split
    · rename_i traces
      rw [Option.some_inj, List.singleton_inj]
      exact ⟨fun same => ⟨same, (traces_iff item).mp traces⟩, And.left⟩
    · rename_i untraced
      constructor
      · intro none_
        cases none_
      · intro both
        exact absurd ((traces_iff item).mpr both.2) untraced
  · rename_i several
    constructor
    · intro none_
      cases none_
    · intro both
      exact absurd both.1 (several target)

theorem target_role (factId target : String) (member : target ∈ targetsOf facts factId) :
    ∃ role, influenceTargets.find? (fun role => role.text = target) = some role ∧
      role.text = target := by
  simp only [targetsOf, List.mem_dedup, List.mem_filterMap, List.mem_filter, Bool.and_eq_true,
    decide_eq_true_eq] at member
  obtain ⟨fact, ⟨-, kind, -⟩, value⟩ := member
  have valid := fact.valueValid
  rw [kind, value] at valid
  have listed : target ∈
      ["size", "key", "value", "iteration_count", "submission_count", "unknown"] :=
    List.contains_iff_mem.mp valid
  simp only [List.mem_cons, List.not_mem_nil, or_false] at listed
  rcases listed with rfl | rfl | rfl | rfl | rfl | rfl <;> exact ⟨_, rfl, rfl⟩

/-- A fact becomes an influence exactly where the prompt offers it, with the target shown. -/
theorem influence_iff (distinct : (facts.map StaticFact.factId).Nodup) (item : StaticFact)
    (member : item ∈ facts) (influence : AttackerInfluence) :
    influenceOf facts item.factId = .ok influence ↔
      offeredTarget facts item = some influence.target.text ∧
        influence.evidenceId = item.factId := by
  have found : (facts.find? fun fact => fact.factId = item.factId) = some item := by
    cases held : facts.find? fun fact => fact.factId = item.factId with
    | none =>
      have absent := List.find?_eq_none.mp held item member
      simp at absent
    | some other =>
      have same : other.factId = item.factId := by simpa using List.find?_some held
      rw [List.inj_on_of_nodup_map distinct (List.mem_of_find?_eq_some held) member same]
  rw [offered_iff]
  unfold influenceOf
  rw [found]
  constructor
  · intro bound
    split at bound
    · rename_i target fact single own
      cases own
      split at bound
      · rename_i role named
        split_ifs at bound with valid
        cases bound
        have text : role.text = target := by simpa using List.find?_some named
        exact ⟨⟨text ▸ single, valid.1⟩, rfl⟩
      · cases bound
    · cases bound
  · rintro ⟨⟨single, traces⟩, named⟩
    obtain ⟨role, known, text⟩ := target_role facts item.factId influence.target.text
      (by rw [single]; exact List.mem_singleton_self _)
    have same : role = influence.target := DemandRole.text_injective role influence.target text
    rw [single]
    dsimp only
    rw [known]
    dsimp only
    rw [dif_pos ⟨traces, item.factIdValid⟩]
    obtain ⟨target, evidenceId, valid⟩ := influence
    cases same
    cases named
    rfl

theorem bound_run (discloses : String → Bool) (provider : ProviderGrowthContract)
    (valid : provider.valid discloses = true) (boundedSlice : BoundedSlice)
    (aliases : List (String × String)) (some_ : aliases ≠ [])
    (known : ∀ name item, aliases.lookup name = some item →
      item ∈ boundedSlice.payload.staticFacts.map StaticFact.factId)
    (shape : GrowthKind × ResourceDimension)
    (one : sinkShapes boundedSlice.payload.staticFacts = [shape])
    (influences : List AttackerInfluence) :
    (∃ contract, bindProviderGrowthContract provider boundedSlice aliases = .ok contract ∧
      contract.attackerInfluence = influences) ↔ ∃ attackerIds required,
      List.Forall₂ (fun name item => aliases.lookup name = some item)
        provider.attackerEvidenceIds attackerIds ∧
      List.Forall₂ (fun name item => aliases.lookup name = some item)
        provider.requiredStaticEvidence required ∧
      List.Forall₂ (fun id influence =>
        influenceOf boundedSlice.payload.staticFacts id = .ok influence)
        attackerIds influences := by
  simp only [ProviderGrowthContract.valid, Bool.and_eq_true, decide_eq_true_eq] at valid
  obtain ⟨⟨⟨⟨⟨⟨⟨⟨few, -⟩, -⟩, requiredFew⟩, -⟩, -⟩, -⟩, allowed⟩, -⟩ := valid
  unfold bindProviderGrowthContract
  simp only [bind_ok, require_ok, restored_iff aliases some_, one, exists_const]
  constructor
  · rintro ⟨contract, ⟨attackerIds, attackers, required, requireds, -, influence, run, made⟩, same⟩
    rw [influences_iff] at run
    split_ifs at made
    cases made
    exact ⟨attackerIds, required, attackers, requireds, same ▸ run⟩
  · rintro ⟨attackerIds, required, attackers, requireds, run⟩
    have inside : ∀ {names items : List String},
        List.Forall₂ (fun name item => aliases.lookup name = some item) names items →
        ∀ item ∈ items, item ∈ boundedSlice.payload.staticFacts.map StaticFact.factId := by
      intro names items related item member
      obtain ⟨name, -, found⟩ := related_left related.flip item member
      exact known name item found
    have cited : ((attackerIds ++ required).all
        (boundedSlice.payload.staticFacts.map StaticFact.factId).contains) = true := by
      rw [List.all_eq_true]
      intro item member
      rw [List.contains_iff_mem]
      rcases List.mem_append.mp member with own | own
      · exact inside attackers item own
      · exact inside requireds item own
    have bounded : influences.length ≤ 16 := by
      rw [← run.length_eq, ← attackers.length_eq]
      exact few
    have evidence : required.length ≤ 32 ∧
        ∀ identifier ∈ required, validId identifier "fact:" = true := by
      constructor
      · rw [← requireds.length_eq]
        exact requiredFew
      · intro identifier member
        obtain ⟨fact, -, rfl⟩ := List.mem_map.mp (inside requireds identifier member)
        exact fact.factIdValid
    refine ⟨?contract, ⟨attackerIds, attackers, required, requireds, cited, influences,
      (influences_iff _ _ _).mpr run, ?made⟩, ?same⟩
    case made => rw [dif_pos bounded, dif_pos evidence, dif_pos allowed]
    case same => rfl

variable (texts : PromptTexts) (slice : PromptSlice)

variable (options : List EvidenceOption)

theorem option_member (offered : attackerEvidenceOptions slice = some options) (option :
    EvidenceOption) : option ∈ options ↔ ∃ item ∈ slice.facts,
      offeredTarget slice.facts item = some option.attackerTarget ∧
      slice.factAliases.lookup item.factId = some option.evidenceId := by
  have reads := congrArg (some option ∈ ·) ((reads_mapM _ _ _).mp offered)
  have inside : some option ∈ options.map some ↔ option ∈ options := by simp
  rw [← inside, ← reads]
  simp only [List.mem_map, List.mem_filterMap]
  constructor
  · rintro ⟨_, ⟨item, member, same⟩, found⟩
    obtain ⟨target, own, rfl⟩ := Option.map_eq_some_iff.mp same
    cases name : slice.factAliases.lookup item.factId with
    | none => simp [name] at found
    | some id =>
      simp only [name, Option.bind_eq_bind, Option.bind_some, Option.pure_def,
        Option.some_inj] at found
      subst found
      exact ⟨item, member, own, name⟩
  · rintro ⟨item, member, own, name⟩
    refine ⟨(item, option.attackerTarget), ⟨item, member, by rw [own]; rfl⟩, ?_⟩
    simp [name]

theorem original_known (name item : String)
    (found : (originals "fact:" "" slice.factIds).lookup name = some item) :
    ∃ fact ∈ slice.facts, fact.factId = item := by
  have member := named_item "fact:" "" _ (fact_ids_distinct slice) item name
    ((lookup_swapped "fact:" "" _ (fact_ids_distinct slice) name item).mp found)
  exact List.mem_map.mp member

theorem name_known (name : String) : name ∈ (originals "fact:" "" slice.factIds).map Prod.fst ↔
      ∃ item, (originals "fact:" "" slice.factIds).lookup name = some item := by
  have distinct : ((originals "fact:" "" slice.factIds).map Prod.fst).Nodup := by
    rw [originals_names]
    exact names_distinct "fact:" "" slice.factIds
  simp only [lookup_iff _ distinct, List.mem_map, Prod.exists, exists_and_right, exists_eq_right]

/-- An offered name restores to the fact that is offered under it, with the same target. -/
theorem shown_iff (offered : attackerEvidenceOptions slice = some options) (name item target :
    String) (found : (originals "fact:" "" slice.factIds).lookup name = some item) :
    ⟨name, target⟩ ∈ options ↔
      ∃ fact ∈ slice.facts, fact.factId = item ∧ offeredTarget slice.facts fact = some target := by
  have distinct := fact_ids_distinct slice
  rw [option_member slice options offered]
  constructor
  · rintro ⟨fact, member, own, named⟩
    have restored := (lookup_swapped "fact:" "" _ distinct name fact.factId).mpr named
    exact ⟨fact, member, Option.some_inj.mp (restored.symm.trans found), own⟩
  · rintro ⟨fact, member, rfl, own⟩
    exact ⟨fact, member, own, (lookup_swapped "fact:" "" _ distinct name fact.factId).mp found⟩

def Shows (options : List EvidenceOption) (name target : String) : Prop :=
  ⟨name, target⟩ ∈ options ∧ ∀ option ∈ options, option.evidenceId = name →
    option.attackerTarget = target

/-- Each influence is the fact behind the cited name, with the target that the prompt shows. -/
theorem bound_shown (offered : attackerEvidenceOptions slice = some options) (name : String)
    (influence : AttackerInfluence) :
    (∃ item, (originals "fact:" "" slice.factIds).lookup name = some item ∧
      influenceOf slice.facts item = .ok influence) ↔
    (originals "fact:" "" slice.factIds).lookup name = some influence.evidenceId ∧
      Shows options name influence.target.text := by
  have distinct := fact_ids_distinct slice
  constructor
  · rintro ⟨item, found, made⟩
    obtain ⟨fact, member, rfl⟩ := original_known slice name item found
    obtain ⟨target, same⟩ := (influence_iff slice.facts distinct fact member influence).mp made
    refine ⟨same ▸ found, (shown_iff slice options offered _ _ _ found).mpr
      ⟨fact, member, rfl, target⟩, ?_⟩
    rintro ⟨_, other⟩ inside rfl
    obtain ⟨again, known, equal, own⟩ := (shown_iff slice options offered _ _ _ found).mp inside
    rw [List.inj_on_of_nodup_map distinct known member equal, target] at own
    exact (Option.some_inj.mp own).symm
  · rintro ⟨found, shows_, -⟩
    obtain ⟨fact, member, same, own⟩ := (shown_iff slice options offered _ _ _ found).mp shows_
    refine ⟨influence.evidenceId, found, ?_⟩
    rw [← same]
    exact (influence_iff slice.facts distinct fact member influence).mpr ⟨own, same.symm⟩

theorem option_bound (offered : attackerEvidenceOptions slice = some options) (option :
    EvidenceOption) (member : option ∈ options) :
    ∃ item, (originals "fact:" "" slice.factIds).lookup option.evidenceId = some item ∧
      ∃ influence, influenceOf slice.facts item = .ok influence := by
  have distinct := fact_ids_distinct slice
  obtain ⟨fact, known, own, named⟩ := (option_member slice options offered option).mp member
  have single := ((offered_iff slice.facts fact _).mp own).1
  obtain ⟨role, -, text⟩ := target_role slice.facts fact.factId option.attackerTarget
    (by rw [single]; exact List.mem_singleton_self _)
  exact ⟨fact.factId, (lookup_swapped "fact:" "" _ distinct _ _).mpr named,
    ⟨role, fact.factId, fact.factIdValid⟩,
    (influence_iff slice.facts distinct fact known _).mpr ⟨by rw [own, text], rfl⟩⟩

/-- The prompt names every fact once, alike in the correction, and a valid answer over one shape
is bound exactly where it cites names of the prompt and its attacker evidence is among the
options, each with the target shown. -/
theorem prompt_binder_agree : ∃ options bounded payload correction,
    attackerEvidenceOptions slice = some options ∧ buildProviderPayload texts slice = some payload ∧
    buildGrowthCorrectionPayload texts slice = some correction ∧
    payload.messages = [("system", texts.systemMessage),
      ("user", userContent texts options bounded)] ∧
    correction.factAliasToOriginal = payload.factAliasToOriginal ∧
    (payload.factAliasToOriginal.map Prod.fst).Nodup ∧
    payload.factAliasToOriginal.map Prod.snd = slice.factIds ∧ slice.factIds.Nodup ∧
    ∀ (discloses : String → Bool) (provider : ProviderGrowthContract)
      (shape : GrowthKind × ResourceDimension), provider.valid discloses = true →
      sinkShapes slice.facts = [shape] →
      ((∃ contract, bindProviderGrowthContract provider slice.boundedSlice
          payload.factAliasToOriginal = .ok contract) ↔
        (∀ name ∈ provider.attackerEvidenceIds ++ provider.requiredStaticEvidence,
          name ∈ payload.factAliasToOriginal.map Prod.fst) ∧
        ∀ name ∈ provider.attackerEvidenceIds, name ∈ options.map EvidenceOption.evidenceId) ∧
      ∀ contract, bindProviderGrowthContract provider slice.boundedSlice
          payload.factAliasToOriginal = .ok contract → List.Forall₂ (fun name influence =>
          payload.factAliasToOriginal.lookup name = some influence.evidenceId ∧
            Shows options name influence.target.text)
          provider.attackerEvidenceIds contract.attackerInfluence := by
  obtain ⟨options, bounded, payload, correction, offered, built, corrected, messages, own, again⟩ :=
    prompts_total texts slice
  refine ⟨options, bounded, payload, correction, offered, built, corrected, messages,
    again.trans own.symm, ?_, ?_, fact_ids_distinct slice, ?_⟩
  · rw [own, originals_names]
    exact names_distinct "fact:" "" slice.factIds
  · rw [own]
    exact originals_items "fact:" "" slice.factIds
  intro discloses provider shape valid one
  rw [own]
  have some_ : originals "fact:" "" slice.factIds ≠ [] := by
    intro none_
    have items := originals_items "fact:" "" slice.factIds
    rw [none_] at items
    have factless : slice.facts = [] := List.map_eq_nil_iff.mp items.symm
    rw [factless] at one
    cases one
  have known : ∀ name item, (originals "fact:" "" slice.factIds).lookup name = some item →
      item ∈ slice.boundedSlice.payload.staticFacts.map StaticFact.factId :=
    fun name item found => List.mem_map.mpr (original_known slice name item found)
  have run (influences : List AttackerInfluence) :
      (∃ contract, bindProviderGrowthContract provider slice.boundedSlice
          (originals "fact:" "" slice.factIds) = .ok contract ∧
        contract.attackerInfluence = influences) ↔
      List.Forall₂ (fun name influence =>
        (originals "fact:" "" slice.factIds).lookup name = some influence.evidenceId ∧
          Shows options name influence.target.text) provider.attackerEvidenceIds influences ∧
      ∀ name ∈ provider.requiredStaticEvidence,
        name ∈ (originals "fact:" "" slice.factIds).map Prod.fst := by
    rw [bound_run discloses provider valid slice.boundedSlice _ some_ known shape one]
    simp only [name_known, ← bound_shown slice options offered, forall_through, ← forall_related]
    constructor
    · rintro ⟨attackerIds, required, attackers, requireds, made⟩
      exact ⟨⟨attackerIds, attackers, made⟩, required, requireds⟩
    · rintro ⟨⟨attackerIds, attackers, made⟩, required, requireds⟩
      exact ⟨attackerIds, required, attackers, requireds, made⟩
  refine ⟨?_, fun contract bound => ((run _).mp ⟨contract, bound, rfl⟩).1⟩
  constructor
  · rintro ⟨contract, bound⟩
    obtain ⟨attackers, requireds⟩ := (run _).mp ⟨contract, bound, rfl⟩
    constructor
    · intro name member
      rcases List.mem_append.mp member with cited | cited
      · obtain ⟨influence, -, found, -⟩ := related_left attackers name cited
        exact (name_known slice name).mpr ⟨_, found⟩
      · exact requireds name cited
    · intro name cited
      obtain ⟨influence, -, -, shown, -⟩ := related_left attackers name cited
      exact List.mem_map.mpr ⟨_, shown, rfl⟩
  · rintro ⟨cited, listed⟩
    obtain ⟨influences, related⟩ := (forall_related (fun name (influence : AttackerInfluence) =>
      (originals "fact:" "" slice.factIds).lookup name = some influence.evidenceId ∧
        Shows options name influence.target.text) provider.attackerEvidenceIds).mpr (by
      intro name member
      obtain ⟨option, inside, rfl⟩ := List.mem_map.mp (listed name member)
      obtain ⟨item, found, influence, made⟩ := option_bound slice options offered option inside
      exact ⟨influence, (bound_shown slice options offered _ _).mp ⟨item, found, made⟩⟩)
    obtain ⟨contract, bound, -⟩ := (run influences).mpr ⟨related, fun name member =>
      cited name (List.mem_append_right _ member)⟩
    exact ⟨contract, bound⟩

end

def sampleTargetFact (identifier : String) (kind : StaticFactKind) (relation : FactRelation)
    (valueRef value : Option String) (valid : validId identifier "fact:" = true)
    (refers : ∀ reference, valueRef = some reference → validId reference "fact:" = true)
    (normalized : validNormalizedValue kind value = true) : StaticFact :=
  ⟨identifier, kind, "excerpt:cache", relation, valueRef, value, valid,
    sampleExcerpt.excerptIdValid, refers, normalized⟩

def sampleMapFacts : List StaticFact := [
  sampleTargetFact "fact:flow" .flow .flowsTo none (some "request_parameter")
    (by decide) unreferenced_valid parameter_flow,
  sampleTargetFact "fact:put" .containerWrite .sink none none (by decide) unreferenced_valid
    unvalued_write,
  sampleTargetFact "fact:target" .attackerTarget .source (some "fact:flow") (some "key")
    (by decide) (by rintro _ ⟨⟩; decide) (by decide)]

def samplePrompt : PromptSlice where
  boundedSlice := {
    sliceId := "slice:map"
    payload := {
      entryId := "entry:handler"
      growthId := "growth:map"
      sourceExcerpts := [sampleExcerpt.reference]
      staticFacts := sampleMapFacts
      entryIdValid := handler_entry_valid
      growthIdValid := by decide
      excerptsRequired := List.cons_ne_nil _ _
      excerptsBounded := by decide
      factsBounded := by decide
      excerptsDistinct := List.nodup_singleton _
      factsDistinct := by decide
      locationsKnown := by decide
      valueRefsKnown := by simp [sampleMapFacts, sampleTargetFact] }
    sliceIdValid := by decide }
  sourceExcerpts := [sampleExcerpt]
  cfgSummary := ⟨[], ["in_handler"], ["fact:target"]⟩
  registrationFacts := []
  configFacts := []
  excerptsSame := rfl
  pathsDistinct := List.nodup_nil
  branchesKnown := by decide
  registrationsKnown := nofun
  configIdsValid := nofun
  configKnown := nofun

def sampleTexts : PromptTexts where
  systemMessage := "You classify one bounded public-source static-analysis slice."
  correctionInvariants := " This is the one correction attempt."
  responseSchemaVersion := "growth-contract-schema-v5"
  responseSchema := .obj []

def citingProvider : ProviderGrowthContract :=
  { declinedProvider with
    attackerEvidenceIds := ["fact:1"], requiredStaticEvidence := ["fact:2"] }

theorem sample_options : attackerEvidenceOptions samplePrompt = some [⟨"fact:1", "key"⟩] := by
  decide

theorem sample_aliases (payload : ProviderPayload)
    (built : buildProviderPayload sampleTexts samplePrompt = some payload) :
    payload.factAliasToOriginal = [("fact:1", "fact:flow"), ("fact:2", "fact:put"),
      ("fact:3", "fact:target")] := by
  obtain ⟨_, _, other, _, -, again, -, -, same, -⟩ := prompts_total sampleTexts samplePrompt
  rw [Option.some_inj.mp (built.symm.trans again), same]
  decide

theorem prompt_binder_agree_sample : ∃ payload contract,
    buildProviderPayload sampleTexts samplePrompt = some payload ∧
    bindProviderGrowthContract citingProvider samplePrompt.boundedSlice
      payload.factAliasToOriginal = .ok contract := by
  obtain ⟨options, bounded, payload, correction, offered, built, -, -, -, -, -, -, binds⟩ :=
    prompt_binder_agree sampleTexts samplePrompt
  have named := sample_aliases payload built
  have same := Option.some_inj.mp (offered.symm.trans sample_options)
  have bound := (binds (fun _ => false) citingProvider (.containerGrowth, .entries)
    (by decide) (by decide)).1
  obtain ⟨contract, run⟩ := bound.mpr (by
    rw [named, same]
    decide)
  exact ⟨payload, contract, built, run⟩

end DosWeb.Llm
