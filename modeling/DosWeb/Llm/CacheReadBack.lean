import DosWeb.CanonicalJson
import DosWeb.Llm.CacheContracts

/-!
What the readers of the contract cache make of an entry that was written.
-/

namespace DosWeb.Llm.Cache

open Library Library.JsonValue Library.JsonText Library.JsonSize Library.JsonRecord
open Library.OrderedSet Identifiers

variable {F : Type} (number : Json F → Json F → Bool)

theorem node_within_normalize (value : Json F) :
    nodeWithin (JsonValue.normalize value) = nodeWithin value := by
  cases value with
  | arr items => simp [JsonValue.normalize, nodeWithin, normalizeItems_eq_map]
  | obj members =>
    have length := (normalizeMembers_perm members).length_eq
    rw [List.length_map] at length
    simp [JsonValue.normalize, nodeWithin, length]
  | _ => rfl

theorem bounds_normalize (value : Json F) :
    checkJsonBounds (JsonValue.normalize value) = checkJsonBounds value := by
  have perm := spread_normalize 0 value
  rw [checkJsonBounds, checkJsonBounds, perm.length_eq, List.length_map, perm.all_eq, List.all_map]
  simp only [Function.comp_def, node_within_normalize]

section

variable (members : Members F) (key text : String)

theorem snoc_distinct (distinct : DistinctKeys (.obj members))
    (fresh : key ∉ members.map Prod.fst) : DistinctKeys (.obj (members ++ [(key, .str text)])) := by
  constructor
  · rw [List.map_append, List.nodup_append]
    refine ⟨distinct.1, List.nodup_singleton key, ?_⟩
    intro other inside last added same
    rw [same, List.mem_singleton.mp added] at inside
    exact fresh inside
  · apply (distinctMembers_iff _).mpr
    intro member inside
    rcases List.mem_append.mp inside with own | added
    · exact (distinctMembers_iff _).mp distinct.2 member own
    · rw [List.mem_singleton.mp added]
      trivial

theorem without_snoc (fresh : key ∉ members.map Prod.fst) :
    without key (members ++ [(key, .str text)]) = members := by
  rw [without, List.filter_append]
  have kept : members.filter (fun member => member.1 ≠ key) = members := by
    apply List.filter_eq_self.mpr
    intro member inside
    apply decide_eq_true
    intro same
    exact fresh (List.mem_map.mpr ⟨member, inside, same⟩)
  rw [kept]
  simp

theorem get_snoc (members : Members F) (key other text : String) (apart : other ≠ key) :
    get (members ++ [(key, .str text)]) other = get members other := by
  simp only [JsonRecord.get, present, field, List.find?_append]
  cases members.find? fun member => member.1 == other with
  | some member => rfl
  | none =>
    have differs : (key == other) = false := beq_eq_false_iff_ne.mpr (Ne.symm apart)
    simp [List.find?, differs]

theorem snoc_get (fresh : key ∉ members.map Prod.fst) :
    get (members ++ [(key, .str text)]) key = .str text := by
  have none : (members.find? fun member => member.1 == key) = none := by
    apply List.find?_eq_none.mpr
    intro member inside same
    exact fresh (List.mem_map.mpr ⟨member, inside, by simpa using same⟩)
  simp [JsonRecord.get, present, field, List.find?_append, none]

end

section

variable [FloatText F]

structure Sealable (stable : Members F) : Prop where
  distinct : DistinctKeys (.obj stable)
  hashFree : "entry_hash" ∉ stable.map Prod.fst
  hmacFree : "entry_hmac" ∉ stable.map Prod.fst

variable (mac : Json F → String)

section

variable (stable : Members F) (sealable : Sealable stable)

include sealable

theorem hashed_distinct : DistinctKeys (.obj (withHash stable)) :=
  snoc_distinct stable _ _ sealable.distinct sealable.hashFree

theorem hmac_fresh : "entry_hmac" ∉ (withHash stable).map Prod.fst := by
  rw [withHash, List.map_append, List.mem_append]
  intro inside
  rcases inside with own | added
  · exact sealable.hmacFree own
  · have apart : "entry_hmac" ≠ "entry_hash" := by decide
    exact apart (List.mem_singleton.mp added)

theorem sealed_distinct : DistinctKeys (.obj (withHmac mac (withHash stable))) :=
  snoc_distinct _ _ _ (hashed_distinct stable sealable) (hmac_fresh stable sealable)

theorem sealed_parts : without "entry_hmac" (normalizeMembers (withHmac mac (withHash stable))) =
        normalizeMembers (withHash stable) ∧
      without "entry_hash" (normalizeMembers (withHash stable)) = normalizeMembers stable := by
  have outer := (sealed_distinct mac stable sealable).1
  have inner := (hashed_distinct stable sealable).1
  constructor
  · rw [without, ← normalize_filter _ outer fun key => decide (key ≠ "entry_hmac")]
    exact congrArg normalizeMembers (without_snoc _ _ _ (hmac_fresh stable sealable))
  · rw [without, ← normalize_filter _ inner fun key => decide (key ≠ "entry_hash")]
    exact congrArg normalizeMembers (without_snoc _ _ _ sealable.hashFree)

theorem sealed_get (key : String) (hashed : key ≠ "entry_hash") (signed : key ≠ "entry_hmac") :
    get (normalizeMembers (withHmac mac (withHash stable))) key =
      JsonValue.normalize (get stable key) := by
  rw [get_normalize _ (sealed_distinct mac stable sealable).1, withHmac, get_snoc _ _ _ _ signed,
    withHash, get_snoc _ _ _ _ hashed]

theorem sealed_codes : get (normalizeMembers (withHmac mac (withHash stable))) "entry_hash" =
        .str (sha256CanonicalJson (.obj stable)) ∧
      get (normalizeMembers (withHmac mac (withHash stable))) "entry_hmac" =
        .str (mac (.obj (withHash stable))) := by
  have distinct := (sealed_distinct mac stable sealable).1
  constructor
  · rw [get_normalize _ distinct, withHmac, get_snoc _ _ _ _ (by decide), withHash,
      snoc_get _ _ _ sealable.hashFree]
    rfl
  · rw [get_normalize _ distinct, withHmac, snoc_get _ _ _ (hmac_fresh stable sealable)]
    rfl

end

variable [LawfulFloatText F]

/-- The canonical text of a value loads where the decoder does not run out of recursion on it and
its value is within the reader's bounds. -/
theorem strict_load_canonical (tooDeep : List Char → Bool) (value : Json F)
    (printed : printable maxIntegerDigits value = true) (distinct : DistinctKeys value)
    (bounded : (canonicalJson value).length ≤ maxCacheBytes) :
    strictLoad tooDeep (canonicalJson value) =
      if tooDeep (render (JsonValue.normalize value)) then .error .recursion
      else if checkJsonBounds value then .ok (JsonValue.normalize value) else .error .value := by
  have decoded : Bytes.decodeUtf8 (canonicalJson value) = some (render (JsonValue.normalize value)) :=
    Bytes.decodeUtf8_utf8 _
  have parsed := canonical_read value printed distinct
  rw [decoded, Option.bind_some] at parsed
  unfold strictLoad
  rw [if_pos bounded, decoded]
  simp only [parsed, bounds_normalize]

end

theorem equal_normalize (left right : Json F) (distinct : DistinctKeys left) :
    equal number (JsonValue.normalize left) right = equal number left right := by
  rw [equal, equal, normalize_idempotent left distinct]

theorem audit_normalize (audit : Members F) (distinct : DistinctKeys (.obj audit))
    (identity : Members F) : validAudit number (.obj (normalizeMembers audit)) identity =
      validAudit number (.obj audit) identity := by
  have texts (limit : Nat) (value : Json F) :
      textWithin limit (JsonValue.normalize value) = textWithin limit value := by
    cases value <;> rfl
  have digests (value : Json F) : isDigest (JsonValue.normalize value) = isDigest value := by
    cases value <;> rfl
  have flags (value : Json F) : isBool (JsonValue.normalize value) = isBool value := by
    cases value <;> rfl
  have models (value : Json F) :
      modelMatches identity (JsonValue.normalize value) = modelMatches identity value := by
    unfold modelMatches
    cases get identity "model" <;> cases value <;> rfl
  have repeated (key other : String) :
      repeats number identity (JsonValue.normalize (get audit key)) other =
        repeats number identity (get audit key) other := by
    simp only [repeats, equal_normalize number _ _ (get_distinct audit distinct key)]
  simp only [validAudit, get_normalize audit distinct.1, field_set_normalize audit, texts,
    digests, flags, models, repeated]

section

variable [FloatText F]
  (reflexive : ∀ value, printable maxIntegerDigits value = true → number value value = true)

include reflexive in
theorem equal_values_self (value : Json F) (printed : printable maxIntegerDigits value = true) :
    equalValues number value value = true := by
  induction value using Json.induct with
  | null => rfl
  | str text => simp [equalValues]
  | arr items ih =>
    have each := (JsonRoundTrip.printableItems_iff _ items).mp printed
    have all : equalItems number items items = true := by
      clear printed
      induction items with
      | nil => rfl
      | cons item items rest =>
        obtain ⟨own, others⟩ := List.forall_mem_cons.mp each
        rw [equalItems, ih item (.head _) own,
          rest (fun other inside => ih other (.tail _ inside)) others]
        rfl
    exact all
  | obj members ih =>
    have each := (JsonRoundTrip.printableMembers_iff _ members).mp printed
    have all : equalMembers number members members = true := by
      clear printed
      induction members with
      | nil => rfl
      | cons member members rest =>
        obtain ⟨own, others⟩ := List.forall_mem_cons.mp each
        rw [equalMembers, ih member (.head _) own,
          rest (fun other inside => ih other (.tail _ inside)) others]
        simp
    exact all
  | bool _ | int _ | float _ => simp [equalValues, isNumber, reflexive _ printed]

include reflexive in
theorem equal_self (value : Json F) (printed : printable maxIntegerDigits value = true)
    (distinct : DistinctKeys value) : equal number (JsonValue.normalize value) value = true := by
  rw [equal_normalize number value value distinct, equal]
  apply equal_values_self number reflexive
  rw [JsonRoundTrip.printable_normalize]
  exact printed

end

theorem equal_members (left right : Members F) (same : equalMembers number left right = true)
    (key : String) : (present left key = none ∧ present right key = none) ∨
      ∃ one other, present left key = some one ∧ present right key = some other ∧
        equalValues number one other = true := by
  induction left generalizing right with
  | nil =>
    cases right with
    | nil => exact Or.inl ⟨rfl, rfl⟩
    | cons => cases same
  | cons first lefts ih =>
    cases right with
    | nil => cases same
    | cons second rights =>
      rw [equalMembers, Bool.and_eq_true, Bool.and_eq_true, decide_eq_true_eq] at same
      obtain ⟨⟨keys, values⟩, rest⟩ := same
      by_cases here : first.1 = key
      · refine Or.inr ⟨first.2, second.2, ?_, ?_, values⟩
        · simp [present, field, here]
        · simp [present, field, ← keys, here]
      · have away : ¬ second.1 = key := keys ▸ here
        have later := ih rights rest
        simpa [present, field, here, away] using later

theorem equal_text (text : String) (other : Json F) :
    equalValues number (.str text) other = true ↔ other = .str text := by
  cases other <;> simp [equalValues, isNumber, eq_comm]

theorem equal_symm_text (value : Json F) (text : String)
    (same : equalValues number value (.str text) = true) : value = .str text := by
  cases value <;> simp_all [equalValues, isNumber]

theorem auth_model_equal (left right : Dict F)
    (same : equal number (.obj left.val) (.obj right.val) = true) (actual : Json F) :
    validAuthActualModel left.val actual = validAuthActualModel right.val actual := by
  have members : equalMembers number (normalizeMembers left.val) (normalizeMembers right.val) = true :=
    same
  have asked := equal_members number _ _ members "model"
  rw [present_normalize _ left.property.1, present_normalize _ right.property.1] at asked
  rcases asked with ⟨none_, other⟩ | ⟨one, other, first, second, values⟩
  · rw [Option.map_eq_none_iff] at none_ other
    unfold validAuthActualModel
    rw [none_, other]
  · obtain ⟨own, held, rfl⟩ := Option.map_eq_some_iff.mp first
    obtain ⟨theirs, holds, rfl⟩ := Option.map_eq_some_iff.mp second
    unfold validAuthActualModel
    rw [held, holds, Option.getD_some, Option.getD_some]
    by_cases text : ∃ requested, own = .str requested
    · obtain ⟨requested, rfl⟩ := text
      rw [normalize_text theirs requested ((equal_text number requested _).mp values)]
    · have apart : ∀ requested, theirs ≠ .str requested := by
        intro requested is
        rw [is] at values
        exact text ⟨requested, normalize_text own _ (equal_symm_text number _ _ values)⟩
      cases own with
      | str requested => exact absurd ⟨requested, rfl⟩ text
      | _ =>
        cases theirs with
        | str requested => exact absurd rfl (apart requested)
        | _ => rfl

section

variable [FloatText F] {discloses : String → Bool} (authenticationKey : List UInt8)

def GrowthPut.actualModel (put : GrowthPut (F := F) discloses) : String :=
  (plainText (get put.requestAudit.val "actual_model")).getD ""

/-- What a reader is to give back for a written entry. -/
def GrowthPut.snapshot (put : GrowthPut (F := F) discloses) : GrowthCacheSnapshot discloses :=
  ⟨put.contract, put.rawResponse, put.acceptedPromptVariant, put.actualModel, ""⟩

theorem growth_sealable (put : GrowthPut (F := F) discloses) : Sealable put.stable := by
  refine ⟨⟨?_, ?_⟩, ?_, ?_⟩
  · change List.Nodup ["cache_format", "cache_key", "response_schema_version", "identity",
      "identity_hash", "request_audit", "audit_hash", "accepted_prompt_variant", "raw_response",
      "raw_response_hash", "contract", "contract_hash"]
    decide
  · exact ⟨trivial, trivial, trivial, put.identity.property, trivial, put.requestAudit.property,
      trivial, trivial, trivial, trivial, contract_distinct put.contract.val, trivial, trivial⟩
  · simp +decide [GrowthPut.stable]
  · simp +decide [GrowthPut.stable]

theorem growth_fields (put : GrowthPut (F := F) discloses) :
    fieldSet (put.entry authenticationKey) = entryKeys := by
  change sortedSet ["cache_format", "cache_key", "response_schema_version", "identity",
    "identity_hash", "request_audit", "audit_hash", "accepted_prompt_variant", "raw_response",
    "raw_response_hash", "contract", "contract_hash", "entry_hash", "entry_hmac"] = entryKeys
  decide

theorem hashes_self (value : Json F) (printed : printable maxIntegerDigits value = true)
    (distinct : DistinctKeys value) : hashes value (.str (sha256CanonicalJson value)) = true ∧
      hashes (JsonValue.normalize value) (.str (sha256CanonicalJson value)) = true := by
  have digest : digestOf value = some (sha256CanonicalJson value) := if_pos printed
  rw [hashes, hashes, digest_normalize value distinct, digest]
  simp [isText]

theorem hmac_normalize (members : Members F) (distinct : DistinctKeys (.obj members)) :
    entryHmac authenticationKey (.obj (normalizeMembers members)) =
        entryHmac authenticationKey (.obj members) ∧
      authHmac authenticationKey (.obj (normalizeMembers members)) =
        authHmac authenticationKey (.obj members) := by
  have same : canonicalJson (.obj (normalizeMembers members)) = canonicalJson (.obj members) :=
    canonical_normalize (.obj members) distinct
  rw [entryHmac, entryHmac, authHmac, authHmac, same]
  exact ⟨rfl, rfl⟩

theorem serialize_ok (recursionLimit : Nat) (entry : Members F) (message : String)
    (bytes : List UInt8) : serialize recursionLimit entry message = .ok bytes ↔
      Artifacts.encodable recursionLimit (.obj entry) = true ∧
        (canonicalJson (.obj entry)).length ≤ maxCacheBytes ∧ bytes = canonicalJson (.obj entry) := by
  simp only [serialize, bind_ok, require_ok, decide_eq_true_eq, exists_and_left, exists_const, pure_ok]
  tauto

omit [FloatText F] in
theorem audit_model (audit identity : Members F)
    (valid : validAudit number (.obj audit) identity = true) : field "actual_model" (.obj audit) =
      some (.str ((plainText (get audit "actual_model")).getD "")) := by
  simp only [validAudit, Bool.and_eq_true, List.all_eq_true] at valid
  have own := valid.1.1.1.1.2 "actual_model" (by decide)
  rw [JsonRecord.get, present] at own ⊢
  cases held : field "actual_model" (.obj audit) with
  | none =>
    rw [held] at own
    cases own
  | some value =>
    rw [held] at own
    cases value with
    | str text => rfl
    | _ => cases own

theorem growth_stands (put : GrowthPut (F := F) discloses) (key : String)
    (apart : key ≠ "entry_hash" ∧ key ≠ "entry_hmac") :
    get (normalizeMembers (put.entry authenticationKey)) key =
      JsonValue.normalize (get put.stable key) :=
  sealed_get (entryHmac authenticationKey) put.stable (growth_sealable put) key apart.1 apart.2

variable (reflexive : ∀ value, printable maxIntegerDigits value = true → number value value = true)

include reflexive in
theorem growth_own (put : GrowthPut (F := F) discloses) (checked : put.check number = .ok ())
    (printed : printable maxIntegerDigits (.obj (put.entry authenticationKey)) = true) :
    growthSnapshot number discloses authenticationKey put.key put.identity
      (.obj (normalizeMembers (put.entry authenticationKey))) = some put.snapshot := by
  have sealable := growth_sealable put
  have hashed := hashed_distinct put.stable sealable
  have value := (JsonRoundTrip.printableMembers_iff _ _).mp printed
  have memberPrinted (member : String × Json F) (inside : member ∈ put.stable) :
      printable maxIntegerDigits member.2 = true :=
    value member (List.mem_append_left _ (List.mem_append_left _ inside))
  have identityPrinted := memberPrinted ("identity", .obj put.identity.val)
    (by simp [GrowthPut.stable])
  have auditPrinted := memberPrinted ("request_audit", .obj put.requestAudit.val)
    (by simp [GrowthPut.stable])
  have contractPrinted := memberPrinted ("contract", contractDict put.contract.val)
    (by simp [GrowthPut.stable])
  have stablePrinted : printable maxIntegerDigits (.obj put.stable) = true :=
    (JsonRoundTrip.printableMembers_iff _ _).mpr memberPrinted
  obtain ⟨_, first, bytesFit⟩ := bind_ok.mp checked
  obtain ⟨⟨safe, auditValid⟩, variantKnown⟩ : (safeKey put.key = true ∧
      validAudit number (.obj put.requestAudit.val) put.identity.val = true) ∧
        promptVariants.contains put.acceptedPromptVariant = true := by
    simpa only [require_ok, Bool.and_eq_true] using first
  have fits := of_decide_eq_true ((require_ok _ _ _).mp bytesFit)
  have codes := sealed_codes (entryHmac authenticationKey) put.stable sealable
  have parts := sealed_parts (entryHmac authenticationKey) put.stable sealable
  have stands := growth_stands authenticationKey put
  have fields : fieldSet (normalizeMembers (put.entry authenticationKey)) = entryKeys :=
    (field_set_normalize _).trans (growth_fields authenticationKey put)
  have identityIs := stands "identity" (by decide)
  have auditIs := stands "request_audit" (by decide)
  have contractIs := stands "contract" (by decide)
  have auditRead := audit_normalize number put.requestAudit.val put.requestAudit.property
    put.identity.val
  have contractRead := contract_read (F := F) discloses put.contract
  have identityHash := (hashes_self _ identityPrinted put.identity.property).1
  have auditHash := (hashes_self _ auditPrinted put.requestAudit.property).2
  have contractHash := (hashes_self _ contractPrinted (contract_distinct put.contract.val)).2
  have stableHash := (hashes_self _ stablePrinted sealable.distinct).2
  unfold growthSnapshot
  refine some_bind.mpr ⟨_, rfl, guard_bind.mpr
    ⟨fields, guard_bind.mpr ⟨⟨?_, ?_, ?_, ?_⟩, guard_bind.mpr ⟨?_, guard_bind.mpr ⟨⟨?_, ?_⟩, ?_⟩⟩⟩⟩⟩
  · rw [stands "cache_format" (by decide)]
    exact (is_text _ _).mpr rfl
  · rw [stands "cache_key" (by decide)]
    exact (is_text _ _).mpr rfl
  · rw [stands "response_schema_version" (by decide)]
    exact (is_text _ _).mpr rfl
  · rw [identityIs]
    exact equal_self number reflexive _ identityPrinted put.identity.property
  · rw [stands "identity_hash" (by decide)]
    exact identityHash
  · rw [auditIs]
    exact auditRead.trans auditValid
  · rw [auditIs, stands "audit_hash" (by decide)]
    exact auditHash
  · have model : (field "actual_model" (get (normalizeMembers (put.entry authenticationKey))
        "request_audit")).bind plainText = some put.actualModel := by
      rw [auditIs]
      change (field "actual_model" (.obj (normalizeMembers put.requestAudit.val))).bind _ = _
      rw [field_normalize _ put.requestAudit.property.1,
        audit_model number put.requestAudit.val put.identity.val auditValid]
      rfl
    refine some_bind.mpr ⟨_, model, some_bind.mpr ⟨put.rawResponse, ?_,
      guard_bind.mpr ⟨⟨fits, ?_⟩, some_bind.mpr ⟨put.acceptedPromptVariant, ?_,
        guard_bind.mpr ⟨variantKnown, guard_bind.mpr ⟨⟨?_, ?_⟩,
          guard_bind.mpr ⟨?_, guard_bind.mpr ⟨?_, some_bind.mpr ⟨put.contract, ?_, rfl⟩⟩⟩⟩⟩⟩⟩⟩⟩
    · rw [stands "raw_response" (by decide)]
      rfl
    · rw [stands "raw_response_hash" (by decide)]
      exact (is_text _ _).mpr rfl
    · rw [stands "accepted_prompt_variant" (by decide)]
      rfl
    · rw [contractIs]
      rfl
    · rw [contractIs, stands "contract_hash" (by decide)]
      exact contractHash
    · rw [GrowthPut.entry, parts.1, parts.2, codes.1]
      exact stableHash
    · rw [GrowthPut.entry, codes.2, parts.1, is_text]
      exact congrArg Json.str (hmac_normalize authenticationKey _ hashed).1.symm
    · rw [contractIs]
      exact congrArg Except.toOption contractRead

theorem growth_only (put : GrowthPut (F := F) discloses) (key : String) (identity : Dict F)
    (snapshot : GrowthCacheSnapshot discloses)
    (read : growthSnapshot number discloses authenticationKey key identity
      (.obj (normalizeMembers (put.entry authenticationKey))) = some snapshot) :
    put.key = key ∧
      hashes (.obj identity.val) (.str (sha256CanonicalJson (.obj put.identity.val))) = true ∧
      snapshot = put.snapshot := by
  have sealable := growth_sealable put
  have stands := growth_stands authenticationKey put
  unfold growthSnapshot at read
  obtain ⟨raw, own, fields⟩ := some_bind.mp read
  obtain rfl : normalizeMembers (put.entry authenticationKey) = raw := Option.some.inj own
  obtain ⟨_, headed⟩ := guard_bind.mp fields
  obtain ⟨⟨_, keyIs, _, _⟩, bound⟩ := guard_bind.mp headed
  obtain ⟨identityHash, audited⟩ := guard_bind.mp bound
  obtain ⟨_, modelled⟩ := guard_bind.mp audited
  obtain ⟨model, modelIs, answered⟩ := some_bind.mp modelled
  obtain ⟨response, responseIs, hashed⟩ := some_bind.mp answered
  obtain ⟨_, prompted⟩ := guard_bind.mp hashed
  obtain ⟨accepted, variantIs, known⟩ := some_bind.mp prompted
  obtain ⟨_, contracted⟩ := guard_bind.mp known
  obtain ⟨_, sealedHash⟩ := guard_bind.mp contracted
  obtain ⟨_, sealedHmac⟩ := guard_bind.mp sealedHash
  obtain ⟨_, validated⟩ := guard_bind.mp sealedHmac
  obtain ⟨contract, contractIs, same⟩ := some_bind.mp validated
  rw [stands "cache_key" (by decide), is_text] at keyIs
  rw [stands "identity_hash" (by decide)] at identityHash
  rw [stands "request_audit" (by decide)] at modelIs
  rw [stands "raw_response" (by decide)] at responseIs
  rw [stands "accepted_prompt_variant" (by decide)] at variantIs
  rw [stands "contract" (by decide)] at contractIs
  have contractRead := contract_read (F := F) discloses put.contract
  have contractSame : some put.contract = some contract :=
    (congrArg Except.toOption contractRead).symm.trans contractIs
  have modelSame : put.actualModel = model := by
    change (field "actual_model" (.obj (normalizeMembers put.requestAudit.val))).bind _ = _
      at modelIs
    rw [field_normalize _ put.requestAudit.property.1] at modelIs
    rw [GrowthPut.actualModel, JsonRecord.get, present]
    cases held : field "actual_model" (.obj put.requestAudit.val) with
    | none =>
      rw [held] at modelIs
      cases modelIs
    | some value =>
      rw [held] at modelIs
      cases value <;> cases modelIs
      rfl
  have variantSame : put.acceptedPromptVariant = accepted := Option.some.inj variantIs
  have responseSame : put.rawResponse = response := Option.some.inj responseIs
  refine ⟨Json.str.inj keyIs, identityHash, ?_⟩
  rw [← Option.some.inj same, GrowthPut.snapshot, Option.some.inj contractSame, modelSame,
    variantSame, responseSame]

end

variable (authenticationKey : List UInt8)

/-- What a reader is to give back for a written entry. -/
def AuthPut.record (put : AuthPut F) : AuthRecord F :=
  ⟨normalizeMembers put.contract.val, put.rawResponse, put.acceptedPromptVariant, put.actualModel⟩

section

variable (put : AuthPut F)

theorem auth_distinct : DistinctKeys (.obj put.stable) := by
  constructor
  · change List.Nodup ["cache_format", "cache_key", "identity", "contract", "raw_response",
      "accepted_prompt_variant", "actual_model"]
    decide
  · exact ⟨trivial, trivial, put.identity.property, put.contract.property, trivial, trivial,
      trivial, trivial⟩

theorem auth_sealable : Sealable put.stable := by
  refine ⟨auth_distinct put, ?_, ?_⟩
  · simp +decide [AuthPut.stable]
  · simp +decide [AuthPut.stable]

variable [FloatText F]

theorem auth_fields : fieldSet (put.entry authenticationKey) = authKeys := by
  change sortedSet ["cache_format", "cache_key", "identity", "contract", "raw_response",
    "accepted_prompt_variant", "actual_model", "entry_hash", "entry_hmac"] = authKeys
  decide

theorem auth_stands (key : String) (apart : key ≠ "entry_hash" ∧ key ≠ "entry_hmac") :
    get (normalizeMembers (put.entry authenticationKey)) key =
      JsonValue.normalize (get put.stable key) :=
  sealed_get (authHmac authenticationKey) put.stable (auth_sealable put) key apart.1 apart.2

/-- The entry that a put writes holds its record, for its key and whatever equals its
identity. -/
theorem auth_own (checked : put.check = .ok ())
    (printed : printable maxIntegerDigits (.obj (put.entry authenticationKey)) = true)
    (identity : Dict F) (same : equal number (.obj put.identity.val) (.obj identity.val) = true) :
    authRecord number authenticationKey put.key identity
      (.obj (normalizeMembers (put.entry authenticationKey))) = some put.record := by
  have sealable := auth_sealable put
  have hashed := hashed_distinct put.stable sealable
  have value := (JsonRoundTrip.printableMembers_iff _ _).mp printed
  have stablePrinted : printable maxIntegerDigits (.obj put.stable) = true :=
    (JsonRoundTrip.printableMembers_iff _ _).mpr fun member inside =>
      value member (List.mem_append_left _ (List.mem_append_left _ inside))
  have stands := auth_stands authenticationKey put
  have fields : fieldSet (normalizeMembers (put.entry authenticationKey)) = authKeys :=
    (field_set_normalize _).trans (auth_fields authenticationKey put)
  obtain ⟨⟨⟨_, _⟩, variantKnown⟩, modelValid⟩ : ((safeKey put.key = true ∧
      decide (byteLength put.rawResponse ≤ maxRawResponseBytes) = true) ∧
        promptVariants.contains put.acceptedPromptVariant = true) ∧
          validAuthActualModel put.identity.val (.str put.actualModel) = true := by
    simpa only [AuthPut.check, require_ok, Bool.and_eq_true] using checked
  have codes := sealed_codes (authHmac authenticationKey) put.stable sealable
  have parts := sealed_parts (authHmac authenticationKey) put.stable sealable
  have contractIs := stands "contract" (by decide)
  have modelIs := stands "actual_model" (by decide)
  have stableHash := (hashes_self _ stablePrinted sealable.distinct).2
  unfold authRecord
  refine some_bind.mpr ⟨_, rfl, guard_bind.mpr
    ⟨⟨fields, ?_, ?_⟩, guard_bind.mpr ⟨?_, some_bind.mpr
      ⟨normalizeMembers put.contract.val, ?_, some_bind.mpr ⟨put.rawResponse, ?_,
        some_bind.mpr ⟨put.acceptedPromptVariant, ?_, guard_bind.mpr
          ⟨variantKnown, guard_bind.mpr ⟨?_, some_bind.mpr ⟨put.actualModel, ?_,
            guard_bind.mpr ⟨?_, guard_bind.mpr ⟨?_, rfl⟩⟩⟩⟩⟩⟩⟩⟩⟩⟩⟩
  · rw [stands "cache_key" (by decide)]
    exact (is_text _ _).mpr rfl
  · rw [stands "identity" (by decide)]
    exact (equal_normalize number _ _ put.identity.property).trans same
  · rw [AuthPut.entry, parts.1, parts.2, codes.1]
    exact stableHash
  · rw [contractIs]
    rfl
  · rw [stands "raw_response" (by decide)]
    rfl
  · rw [stands "accepted_prompt_variant" (by decide)]
    rfl
  · rw [modelIs, ← auth_model_equal number put.identity identity same]
    exact modelValid
  · rw [modelIs]
    rfl
  · rw [stands "cache_format" (by decide)]
    exact (is_text _ _).mpr rfl
  · rw [AuthPut.entry, codes.2, parts.1, is_text]
    exact congrArg Json.str (hmac_normalize authenticationKey _ hashed).2.symm

/-- The entry that a put writes holds nothing for another key or for an identity that does not
equal its own. -/
theorem auth_only (key : String) (identity : Dict F) (record : AuthRecord F)
    (read : authRecord number authenticationKey key identity
      (.obj (normalizeMembers (put.entry authenticationKey))) = some record) :
    put.key = key ∧ equal number (.obj put.identity.val) (.obj identity.val) = true := by
  have stands := auth_stands authenticationKey put
  unfold authRecord at read
  obtain ⟨raw, own, guarded⟩ := some_bind.mp read
  obtain rfl : normalizeMembers (put.entry authenticationKey) = raw := Option.some.inj own
  obtain ⟨⟨_, keySame, identitySame⟩, _⟩ := guard_bind.mp guarded
  rw [stands "cache_key" (by decide), is_text] at keySame
  rw [stands "identity" (by decide)] at identitySame
  refine ⟨Json.str.inj keySame, ?_⟩
  exact (equal_normalize number _ _ put.identity.property).symm.trans identitySame

end

end DosWeb.Llm.Cache
