import DosWeb.Library.JsonLoads
import DosWeb.Llm.CacheReadBack

/-!
What an accepted file must be: an entry that a holder of the authentication key has signed.
-/

namespace DosWeb.Llm.Cache

open Library Library.JsonValue Library.JsonText Library.JsonRecord Identifiers
section

variable {F : Type}

theorem is_text_normalize (text : String) (value : Json F) :
    isText text (JsonValue.normalize value) = isText text value := by
  cases value <;> rfl

theorem plain_text_normalize (value : Json F) :
    plainText (JsonValue.normalize value) = plainText value := by
  cases value <;> rfl

theorem object_normalize (value : Json F) :
    objectOf (JsonValue.normalize value) = (objectOf value).map normalizeMembers := by
  cases value <;> rfl

theorem object_obj (members : Members F) : objectOf (.obj members) = some members := rfl

theorem auth_model_normalize (identity : Members F) (actual : Json F) :
    validAuthActualModel identity (JsonValue.normalize actual) =
      validAuthActualModel identity actual := by
  unfold validAuthActualModel
  cases (present identity "model").getD (.str defaultModel) <;> cases actual <;> rfl

theorem model_field_normalize (audit : Json F) (distinct : DistinctKeys audit) :
    (field "actual_model" (JsonValue.normalize audit)).bind plainText =
      (field "actual_model" audit).bind plainText := by
  cases audit with
  | obj members =>
    rw [JsonValue.normalize, field_normalize members distinct.1]
    cases field "actual_model" (.obj members) with
    | none => rfl
    | some value => exact plain_text_normalize value
  | _ => rfl

theorem any_audit_normalize (number : Json F → Json F → Bool) (audit : Json F)
    (distinct : DistinctKeys audit) (identity : Members F) :
    validAudit number (JsonValue.normalize audit) identity = validAudit number audit identity := by
  cases audit with
  | obj members => exact audit_normalize number members distinct identity
  | _ => rfl

theorem any_contract_normalize (discloses : String → Bool) (payload : Json F)
    (distinct : DistinctKeys payload) :
    validateGrowthContract discloses (JsonValue.normalize payload) =
      validateGrowthContract discloses payload := by
  cases payload with
  | obj members => exact validate_normalize discloses members distinct
  | _ => rfl

theorem without_normalize (members : Members F) (distinct : (members.map Prod.fst).Nodup)
    (key : String) :
    without key (normalizeMembers members) = normalizeMembers (without key members) :=
  (normalize_filter members distinct fun other => decide (other ≠ key)).symm

theorem without_distinct (members : Members F) (distinct : DistinctKeys (.obj members))
    (key : String) : DistinctKeys (.obj (without key members)) := by
  constructor
  · exact distinct.1.sublist (List.Sublist.map _ List.filter_sublist)
  · apply (distinctMembers_iff _).mpr
    intro member inside
    exact (distinctMembers_iff members).mp distinct.2 member (List.mem_of_mem_filter inside)

variable [FloatText F]

theorem hashes_normalize (value recorded : Json F) (distinct : DistinctKeys value) :
    hashes (JsonValue.normalize value) (JsonValue.normalize recorded) = hashes value recorded := by
  simp only [hashes, digest_normalize value distinct, is_text_normalize]

variable (number : Json F → Json F → Bool) (discloses : String → Bool)
  (authenticationKey : List UInt8)

theorem growth_snapshot_normalize (key : String) (identity : Dict F) (raw : Members F)
    (distinct : DistinctKeys (.obj raw)) :
    growthSnapshot number discloses authenticationKey key identity (.obj (normalizeMembers raw)) =
      growthSnapshot number discloses authenticationKey key identity (.obj raw) := by
  have unsigned := without_distinct raw distinct "entry_hmac"
  have stable := without_distinct _ unsigned "entry_hash"
  have stableHash := hashes_normalize (.obj (without "entry_hash" (without "entry_hmac" raw)))
    (get raw "entry_hash") stable
  have auditHash := hashes_normalize (get raw "request_audit") (get raw "audit_hash")
    (get_distinct raw distinct _)
  have contractHash := hashes_normalize (get raw "contract") (get raw "contract_hash")
    (get_distinct raw distinct _)
  have identityHash : hashes (.obj identity.val) (JsonValue.normalize (get raw "identity_hash")) =
      hashes (.obj identity.val) (get raw "identity_hash") := by
    simp only [hashes, is_text_normalize]
  unfold growthSnapshot
  simp only [object_obj, bind, Option.bind_some, get_normalize raw distinct.1, field_set_normalize,
    is_text_normalize, plain_text_normalize, object_normalize, Option.isSome_map,
    equal_normalize number _ _ (get_distinct raw distinct _), identityHash, auditHash,
    any_audit_normalize number _ (get_distinct raw distinct _),
    model_field_normalize _ (get_distinct raw distinct _), contractHash,
    any_contract_normalize discloses _ (get_distinct raw distinct _),
    without_normalize raw distinct.1, without_normalize _ unsigned.1,
    (hmac_normalize authenticationKey _ unsigned).1]
  simp only [JsonValue.normalize] at stableHash
  simp only [stableHash]

def AuthRecord.ordered (record : AuthRecord F) : AuthRecord F :=
  { record with contract := normalizeMembers record.contract }

/-- An Auth entry is read without regard to the order of its members, but for the order of those
of its contract. -/
theorem auth_record_normalize (key : String) (identity : Dict F) (raw : Members F)
    (distinct : DistinctKeys (.obj raw)) :
    authRecord number authenticationKey key identity (.obj (normalizeMembers raw)) =
      (authRecord number authenticationKey key identity (.obj raw)).map AuthRecord.ordered := by
  have unsigned := without_distinct raw distinct "entry_hmac"
  have stable := without_distinct _ unsigned "entry_hash"
  have stableHash := hashes_normalize (.obj (without "entry_hash" (without "entry_hmac" raw)))
    (get raw "entry_hash") stable
  simp only [JsonValue.normalize] at stableHash
  unfold authRecord
  simp only [object_obj, bind, Option.bind_some, get_normalize raw distinct.1, field_set_normalize,
    is_text_normalize, plain_text_normalize, object_normalize,
    equal_normalize number _ _ (get_distinct raw distinct _), auth_model_normalize,
    without_normalize raw distinct.1, without_normalize _ unsigned.1,
    (hmac_normalize authenticationKey _ unsigned).2, stableHash]
  simp only [Option.map_bind, Option.bind_map, Function.comp_def, pure, Option.map_some]
  rfl

end

section

variable {F : Type} [FloatText F] [LawfulFloatText F]

omit [LawfulFloatText F] in
theorem printed_snoc (members : Members F) (key text : String)
    (printed : printable maxIntegerDigits (.obj members) = true) :
    printable maxIntegerDigits (.obj (members ++ [(key, .str text)])) = true := by
  apply (JsonRoundTrip.printableMembers_iff _ _).mpr
  intro member inside
  rcases List.mem_append.mp inside with own | added
  · exact (JsonRoundTrip.printableMembers_iff _ _).mp printed member own
  · rw [List.mem_singleton.mp added]
    rfl

omit [LawfulFloatText F] in
theorem sealed_printed (mac : Json F → String) (stable : Members F)
    (printed : printable maxIntegerDigits (.obj stable) = true) :
    printable maxIntegerDigits (.obj (withHmac mac (withHash stable))) = true :=
  printed_snoc _ _ _ (printed_snoc _ _ _ printed)

omit [FloatText F] [LawfulFloatText F] in
theorem normalize_normal (members : Members F) (distinct : DistinctKeys (.obj members)) :
    Normal (.obj (normalizeMembers members)) :=
  ⟨distinctKeys_normalize _ distinct, normalize_idempotent _ distinct⟩

/-- Members that were signed as those of an entry, under its code, are those of the entry. -/
theorem signed_members (mac : Json F → String) (stable raw : Members F)
    (sealable : Sealable stable) (stablePrinted : printable maxIntegerDigits (.obj stable) = true)
    (distinct : DistinctKeys (.obj raw))
    (fields : fieldSet raw = fieldSet (withHmac mac (withHash stable)))
    (printed : printable maxIntegerDigits (.obj (without "entry_hmac" raw)) = true)
    (signed : canonicalJson (.obj (without "entry_hmac" raw)) = canonicalJson (.obj (withHash stable)))
    (code : get raw "entry_hmac" = .str (mac (.obj (withHash stable)))) :
    normalizeMembers raw = normalizeMembers (withHmac mac (withHash stable)) := by
  have sealedDistinct := sealed_distinct mac stable sealable
  have hashed := hashed_distinct stable sealable
  have unsigned := without_distinct raw distinct "entry_hmac"
  have hashedPrinted : printable maxIntegerDigits (.obj (withHash stable)) = true :=
    printed_snoc _ _ _ stablePrinted
  have same : normalizeMembers (without "entry_hmac" raw) = normalizeMembers (withHash stable) :=
    Json.obj.inj (canonical_injective _ _ printed hashedPrinted unsigned hashed signed)
  apply normal_ext _ _ (normalize_normal raw distinct) (normalize_normal _ sealedDistinct)
  · rw [field_set_normalize, field_set_normalize, fields]
  · intro key
    rw [get_normalize raw distinct.1, get_normalize _ sealedDistinct.1]
    by_cases last : key = "entry_hmac"
    · rw [last, code, withHmac, snoc_get _ _ _ (hmac_fresh stable sealable)]
    · have kept : get (without "entry_hmac" raw) key = get raw key :=
        get_filter raw (fun other => decide (other ≠ "entry_hmac")) key (decide_eq_true last)
      rw [withHmac, get_snoc _ _ _ _ last, ← kept, ← get_normalize _ unsigned.1, same,
        get_normalize _ hashed.1]

omit [LawfulFloatText F] in
theorem unsigned_printed (raw : Members F) (distinct : DistinctKeys (.obj raw))
    (hashed : hashes (.obj (without "entry_hash" (without "entry_hmac" raw)))
      (get raw "entry_hash") = true) :
    printable maxIntegerDigits (.obj (without "entry_hmac" raw)) = true := by
  obtain ⟨digest, made, recorded⟩ := (Option.any_eq_true _ _).mp hashed
  have stable := ((digest_of _ _).mp made).1
  apply (JsonRoundTrip.printableMembers_iff _ _).mpr
  intro member inside
  by_cases last : member.1 = "entry_hash"
  · have held := get_member raw distinct.1 member (List.mem_of_mem_filter inside)
    rw [JsonRecord.get, ← last, held, Option.getD_some, is_text] at recorded
    rw [recorded]
    rfl
  · apply (JsonRoundTrip.printableMembers_iff _ _).mp stable member
    exact List.mem_filter.mpr ⟨inside, decide_eq_true last⟩

end

variable {F : Type} [FloatText F] (number : Json F → Json F → Bool) {discloses : String → Bool}
  (authenticationKey : List UInt8) (tooDeep : List Char → Bool)

/-- All that was signed with an authentication key: entries that could be printed, and the
identifiers of provider requests. -/
structure Signed (F : Type) [FloatText F] (discloses : String → Bool) where
  growth : List (GrowthPut (F := F) discloses)
  auth : List (AuthPut F)
  requestIds : List String
  growthPrinted : ∀ put ∈ growth, printable maxIntegerDigits (.obj put.stable) = true
  authPrinted : ∀ put ∈ auth, printable maxIntegerDigits (.obj put.stable) = true
  authChecked : ∀ put ∈ auth, put.check = .ok ()

def growthMessage (unsigned : Json F) : List UInt8 :=
  domain "growth-contract-cache-entry-v14" ++ canonicalJson unsigned

def authMessage (unsigned : Json F) : List UInt8 := domain authCacheFormat ++ canonicalJson unsigned

def requestMessage (value : String) : List UInt8 :=
  domain "provider-request-id-v1" ++ Text.utf8 value.toList

def Signed.messages (signed : Signed F discloses) : List (List UInt8) :=
  signed.growth.map (fun put => growthMessage (.obj (withHash put.stable))) ++
    (signed.auth.map (fun put => authMessage (.obj (withHash put.stable))) ++
      signed.requestIds.map requestMessage)

/-- The code in a file was made for what the file says. -/
def Trusted (signed : Signed F discloses) (content : List UInt8) : Prop :=
  ∀ (raw : Members F) (code : String), strictLoad tooDeep content = .ok (.obj raw) →
    get raw "entry_hmac" = .str code → Hmac.Unforged authenticationKey signed.messages
        (growthMessage (.obj (without "entry_hmac" raw))) code ∧
      Hmac.Unforged authenticationKey signed.messages
        (authMessage (.obj (without "entry_hmac" raw))) code

theorem growth_domain (signed : Signed F discloses) (unsigned : Json F)
    (held : growthMessage unsigned ∈ signed.messages) :
    ∃ put ∈ signed.growth, canonicalJson unsigned = canonicalJson (.obj (withHash put.stable)) := by
  rcases List.mem_append.mp held with growth | other
  · obtain ⟨put, member, same⟩ := List.mem_map.mp growth
    exact ⟨put, member, (List.append_cancel_left same).symm⟩
  · rcases List.mem_append.mp other with auth | request
    · obtain ⟨put, _, same⟩ := List.mem_map.mp auth
      exact absurd (show some (97 : UInt8) = some 103 from congrArg List.head? same) (by decide)
    · obtain ⟨value, _, same⟩ := List.mem_map.mp request
      exact absurd (show some (112 : UInt8) = some 103 from congrArg List.head? same) (by decide)

theorem auth_domain (signed : Signed F discloses) (unsigned : Json F)
    (held : authMessage unsigned ∈ signed.messages) :
    ∃ put ∈ signed.auth, canonicalJson unsigned = canonicalJson (.obj (withHash put.stable)) := by
  rcases List.mem_append.mp held with growth | other
  · obtain ⟨put, _, same⟩ := List.mem_map.mp growth
    exact absurd (show some (103 : UInt8) = some 97 from congrArg List.head? same) (by decide)
  · rcases List.mem_append.mp other with auth | request
    · obtain ⟨put, member, same⟩ := List.mem_map.mp auth
      exact ⟨put, member, (List.append_cancel_left same).symm⟩
    · obtain ⟨value, _, same⟩ := List.mem_map.mp request
      exact absurd (show some (112 : UInt8) = some 97 from congrArg List.head? same) (by decide)

theorem growth_snapshot_sealed (key : String) (identity : Dict F) (value : Json F)
    (snapshot : GrowthCacheSnapshot discloses)
    (read : growthSnapshot number discloses authenticationKey key identity value = some snapshot) :
    ∃ raw, value = .obj raw ∧ fieldSet raw = entryKeys ∧
      hashes (.obj (without "entry_hash" (without "entry_hmac" raw))) (get raw "entry_hash") = true ∧
      get raw "entry_hmac" =
        .str (entryHmac authenticationKey (.obj (without "entry_hmac" raw))) := by
  unfold growthSnapshot at read
  obtain ⟨raw, own, fielded⟩ := some_bind.mp read
  obtain ⟨fields, headed⟩ := guard_bind.mp fielded
  obtain ⟨_, bound⟩ := guard_bind.mp headed
  obtain ⟨_, audited⟩ := guard_bind.mp bound
  obtain ⟨_, modelled⟩ := guard_bind.mp audited
  obtain ⟨_, _, answered⟩ := some_bind.mp modelled
  obtain ⟨_, _, hashed⟩ := some_bind.mp answered
  obtain ⟨_, prompted⟩ := guard_bind.mp hashed
  obtain ⟨_, _, known⟩ := some_bind.mp prompted
  obtain ⟨_, contracted⟩ := guard_bind.mp known
  obtain ⟨_, sealedHash⟩ := guard_bind.mp contracted
  obtain ⟨hash, sealedHmac⟩ := guard_bind.mp sealedHash
  obtain ⟨hmac, _⟩ := guard_bind.mp sealedHmac
  refine ⟨raw, ?_, fields, hash, (is_text _ _).mp hmac⟩
  cases value <;> cases own
  rfl

theorem auth_record_sealed (key : String) (identity : Dict F) (value : Json F)
    (record : AuthRecord F)
    (read : authRecord number authenticationKey key identity value = some record) :
    ∃ raw, value = .obj raw ∧ fieldSet raw = authKeys ∧
      hashes (.obj (without "entry_hash" (without "entry_hmac" raw))) (get raw "entry_hash") = true ∧
      get raw "entry_hmac" =
        .str (authHmac authenticationKey (.obj (without "entry_hmac" raw))) := by
  unfold authRecord at read
  obtain ⟨raw, own, fielded⟩ := some_bind.mp read
  obtain ⟨⟨fields, _⟩, sealedHash⟩ := guard_bind.mp fielded
  obtain ⟨hash, contracted⟩ := guard_bind.mp sealedHash
  obtain ⟨_, _, answered⟩ := some_bind.mp contracted
  obtain ⟨_, _, prompted⟩ := some_bind.mp answered
  obtain ⟨_, _, known⟩ := some_bind.mp prompted
  obtain ⟨_, modelled⟩ := guard_bind.mp known
  obtain ⟨_, named⟩ := guard_bind.mp modelled
  obtain ⟨_, _, formatted⟩ := some_bind.mp named
  obtain ⟨_, sealedHmac⟩ := guard_bind.mp formatted
  obtain ⟨hmac, _⟩ := guard_bind.mp sealedHmac
  refine ⟨raw, ?_, fields, hash, (is_text _ _).mp hmac⟩
  cases value <;> cases own
  rfl

omit [FloatText F] in
theorem strict_load_distinct [FloatText F] (content : List UInt8) (value : Json F)
    (load : strictLoad tooDeep content = .ok value) : DistinctKeys value := by
  unfold strictLoad at load
  split at load
  · cases load
  · split at load
    · cases load
    · split at load
      · cases load
      · rename_i read
        split at load
        · cases load
          exact JsonLoads.strict_distinct _ _ _ read
        · cases load

def Says (content : List UInt8) (entry : Members F) : Prop :=
  ∃ raw, strictLoad tooDeep content = .ok (.obj raw) ∧ normalizeMembers raw = normalizeMembers entry

variable [LawfulFloatText F] (signed : Signed F discloses) (content : List UInt8)
  (trusted : Trusted authenticationKey tooDeep signed content) (key : String) (identity : Dict F)

include trusted in
theorem growth_authentic (snapshot : GrowthCacheSnapshot discloses)
    (collisionFree : ∀ put ∈ signed.growth, CollisionFree (canonicalJson (.obj identity.val))
      (canonicalJson (.obj put.identity.val)))
    (read : strictGrowthEntry number discloses authenticationKey tooDeep key identity content =
      some snapshot) : ∃ put ∈ signed.growth, put.key = key ∧
      JsonValue.normalize (.obj put.identity.val) = JsonValue.normalize (.obj identity.val) ∧
      snapshot = put.snapshot ∧ Says tooDeep content (put.entry authenticationKey) := by
  obtain ⟨value, loaded, made⟩ := Option.bind_eq_some_iff.mp read
  obtain ⟨raw, rfl, fields, hash, hmac⟩ :=
    growth_snapshot_sealed number authenticationKey key identity value snapshot made
  have load : strictLoad tooDeep content = .ok (.obj raw) := by
    cases found : strictLoad (F := F) tooDeep content with
    | error unread =>
      rw [found] at loaded
      cases loaded
    | ok value =>
      rw [found] at loaded
      cases loaded
      rfl
  have distinct := strict_load_distinct tooDeep content _ load
  obtain ⟨put, member, same⟩ := growth_domain signed _ ((trusted raw _ load hmac).1 rfl)
  have sealable := growth_sealable put
  have printed := signed.growthPrinted put member
  have code : entryHmac authenticationKey (.obj (without "entry_hmac" raw)) =
      entryHmac authenticationKey (.obj (withHash put.stable)) := by
    rw [entryHmac, entryHmac, same]
  rw [code] at hmac
  have members : normalizeMembers raw = normalizeMembers (put.entry authenticationKey) :=
    signed_members (entryHmac authenticationKey) put.stable raw sealable printed distinct
      (fields.trans (growth_fields authenticationKey put).symm)
      (unsigned_printed raw distinct hash) same hmac
  rw [← growth_snapshot_normalize number discloses authenticationKey key identity raw distinct,
    members] at made
  obtain ⟨keySame, identityHash, result⟩ :=
    growth_only number authenticationKey put key identity snapshot made
  refine ⟨put, member, keySame, ?_, result, raw, load, members⟩
  obtain ⟨digest, digested, recorded⟩ := (Option.any_eq_true _ _).mp identityHash
  obtain ⟨identityPrinted, digestIs⟩ := (digest_of _ _).mp digested
  rw [is_text] at recorded
  have text := collisionFree put member (digestIs.trans (Json.str.inj recorded).symm)
  have own : printable maxIntegerDigits (.obj put.identity.val : Json F) = true :=
    (JsonRoundTrip.printableMembers_iff _ _).mp printed ("identity", .obj put.identity.val)
      (by simp [GrowthPut.stable])
  exact canonical_injective _ _ own identityPrinted put.identity.property identity.property text.symm

include trusted in
/-- What is read as an Auth entry was signed as one, with this key and an equal identity. -/
theorem auth_authentic (record : AuthRecord F)
    (read : strictAuthRecord number authenticationKey tooDeep key identity content =
      .ok (some record)) : ∃ put ∈ signed.auth, put.key = key ∧
      equal number (.obj put.identity.val) (.obj identity.val) = true ∧
      record.ordered = put.record ∧ Says tooDeep content (put.entry authenticationKey) := by
  have loaded : ∃ value, strictLoad tooDeep content = .ok value ∧
      authRecord number authenticationKey key identity value = some record := by
    unfold strictAuthRecord at read
    split at read
    · cases read
    · cases read
    · rename_i value load
      exact ⟨value, load, Except.ok.inj read⟩
  obtain ⟨value, load, made⟩ := loaded
  obtain ⟨raw, rfl, fields, hash, hmac⟩ :=
    auth_record_sealed number authenticationKey key identity value record made
  have distinct := strict_load_distinct tooDeep content _ load
  obtain ⟨put, member, same⟩ := auth_domain signed _ ((trusted raw _ load hmac).2 rfl)
  have sealable := auth_sealable put
  have printed := signed.authPrinted put member
  have code : authHmac authenticationKey (.obj (without "entry_hmac" raw)) =
      authHmac authenticationKey (.obj (withHash put.stable)) := by
    rw [authHmac, authHmac, same]
  rw [code] at hmac
  have members : normalizeMembers raw = normalizeMembers (put.entry authenticationKey) :=
    signed_members (authHmac authenticationKey) put.stable raw sealable printed distinct
      (fields.trans (auth_fields authenticationKey put).symm)
      (unsigned_printed raw distinct hash) same hmac
  have normal := auth_record_normalize number authenticationKey key identity raw distinct
  rw [made, members] at normal
  obtain ⟨keySame, identitySame⟩ := auth_only number authenticationKey put key identity _ normal
  refine ⟨put, member, keySame, identitySame, ?_, raw, load, members⟩
  have own := auth_own number authenticationKey put (signed.authChecked put member)
    (sealed_printed _ _ printed) identity identitySame
  rw [keySame, normal] at own
  exact Option.some.inj own

end DosWeb.Llm.Cache
