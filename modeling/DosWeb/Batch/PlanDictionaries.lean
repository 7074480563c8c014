import DosWeb.Batch.Plan

/-!
The dictionaries of a plan in normal form, and what the loader accepts of them: the dictionary
itself, and the few other spellings of it.
-/

namespace DosWeb.Batch.Plan

open Library Library.JsonValue Library.JsonRecord Library.OrderedSet

variable {F : Type} (lower : String → String)

def identityMembers (identity : TargetIdentity) : Members F := [
  ("database_path", .str identity.databasePath), ("fingerprint", .str identity.fingerprint),
  ("fingerprint_type", .str identity.fingerprintType.text), ("index", .int identity.index),
  ("name", .str identity.name), ("slug", .str (identity.slug lower)),
  ("source_path", .str identity.sourcePath), ("target_id", .str identity.identityId)]

theorem identity_normal (identity : TargetIdentity) :
    JsonValue.normalize (identity.toDict lower : Json F) =
      .obj (identityMembers lower identity) := by
  simp +decide [TargetIdentity.toDict, TargetIdentity.semanticIdentity, identityMembers,
    JsonValue.normalize, normalizeMembers, insertMember]

structure IdentityLoadable (identity : TargetIdentity) : Prop where
  index : 1 ≤ identity.index
  name : identity.name.toList.count '/' = 1
  fingerprint : isHex (if identity.fingerprintType = .gitCommit then 40 else 64)
    identity.fingerprint = true
  sourcePath : identity.sourcePath ≠ "" ∧ canonicalPath identity.sourcePath = true
  databasePath : identity.databasePath ≠ "" ∧ canonicalPath identity.databasePath = true

theorem validated_identity (members : Members F) (normal : Normal (.obj members))
    (identity : TargetIdentity) : validatedIdentity lower (.obj members) = some identity ↔
      members = identityMembers lower identity ∧ IdentityLoadable identity := by
  constructor
  · intro validated
    simp only [validatedIdentity, objectOf, bind, Option.bind_some, Option.bind_eq_some_iff,
      Option.guard_eq_some', exists_const, pure, Option.some.injEq, is_text] at validated
    obtain ⟨fields, index, indexIs, positive, name, nameIs, slashes, fingerprint, fingerprintIs,
      sourcePath, sourceIs, databasePath, databaseIs, fingerprintType, typeIs, digest, paths,
      slugIs, idIs, shaped⟩ := validated
    have keys := keys_of_fields members normal _ fields
    have whole := members_of_keys members normal.1.1
    have indexShape : get members "index" = .int index := by
      revert indexIs
      cases get members "index" <;> simp [intOf]
    subst shaped
    constructor
    · rw [whole, keys]
      simp only [identityFields, List.map_cons, List.map_nil, indexShape, (filled_text _ _ nameIs).1,
        (filled_text _ _ fingerprintIs).1, (filled_text _ _ sourceIs).1,
        (filled_text _ _ databaseIs).1, (named_shape _ _ _ _ typeIs).1, slugIs, idIs,
        identityMembers]
    · exact ⟨positive, slashes, digest, ⟨(filled_text _ _ sourceIs).2, paths.1⟩,
        (filled_text _ _ databaseIs).2, paths.2⟩
  · rintro ⟨shape, loadable⟩
    subst shape
    have fields : fieldSet (identityMembers lower identity : Members F) = identityFields :=
      sortedSet_of_increasing _ (normal_increasing _ normal)
    have named : named fingerprintTypes FingerprintType.text
        (.str identity.fingerprintType.text : Json F) = some identity.fingerprintType := by
      apply named_text
      · cases identity.fingerprintType <;> decide
      · cases identity.fingerprintType <;> decide
    have filled : identity.fingerprint ≠ "" := by
      intro empty
      have digits := loadable.fingerprint
      rw [empty] at digits
      split at digits <;> cases digits
    have called : identity.name ≠ "" := by
      intro empty
      have slashes := loadable.name
      rw [empty] at slashes
      cases slashes
    simp only [validatedIdentity, objectOf, bind, Option.bind_some, Option.bind_eq_some_iff,
      Option.guard_eq_some', exists_const, pure, Option.some.injEq, is_text]
    refine ⟨fields, identity.index, rfl, loadable.index, identity.name, ?_, loadable.name,
      identity.fingerprint, ?_, identity.sourcePath, ?_, identity.databasePath, ?_,
      identity.fingerprintType, named, loadable.fingerprint,
      ⟨loadable.sourcePath.2, loadable.databasePath.2⟩, rfl, rfl, rfl⟩
    · exact if_neg called
    · exact if_neg filled
    · exact if_neg loadable.sourcePath.1
    · exact if_neg loadable.databasePath.1

/-- A capability with the members of its provider source given. -/
def capabilityWith (capability : TargetCapability) (source : Members F) : Members F :=
  [("attestation", .str capability.attestation.text),
    ("provider_eligible", .bool capability.providerEligible)] ++ source ++
  [("public_source_url", optionalText capability.publicSourceUrl),
    ("reason", optionalText capability.reason)]

def sourceMembers (capability : TargetCapability) : Members F :=
  (capability.providerSourceCommit.elim [] fun commit => [("provider_source_commit", .str commit)]) ++
    capability.providerSourcePath.elim [] fun path => [("provider_source_path", .str path)]

def nullSource : Members F := [("provider_source_commit", .null), ("provider_source_path", .null)]

theorem capability_normal (capability : TargetCapability) :
    JsonValue.normalize (capability.toDict : Json F) =
      .obj (capabilityWith capability (sourceMembers capability)) := by
  rcases capability with ⟨eligible, url, attestation, reason, path, commit⟩
  cases url <;> cases reason <;> cases path <;> cases commit <;>
    simp +decide [TargetCapability.toDict, capabilityWith, sourceMembers, optionalText,
      JsonValue.normalize, normalizeMembers, insertMember]

structure CapabilityLoadable (capability : TargetCapability) : Prop where
  path : capability.providerSourcePath.all canonicalPath = true
  commit : capability.providerSourceCommit.all (isHex 40) = true
  both : capability.providerSourcePath.isNone = capability.providerSourceCommit.isNone

theorem nullable_shape (value : Json F) (text : Option String)
    (read : nullableText value = some text) : value = optionalText text := by
  cases value with
  | null =>
    cases read
    rfl
  | str held =>
    cases read
    rfl
  | _ => cases read

theorem nullable_text (text : Option String) :
    nullableText (optionalText text : Json F) = some text := by
  cases text <;> rfl

theorem validated_capability (members : Members F) (normal : Normal (.obj members))
    (capability : TargetCapability) : validatedCapability (.obj members) = some capability ↔
      (members = capabilityWith capability (sourceMembers capability) ∨
        capability.providerSourcePath = none ∧ members = capabilityWith capability nullSource) ∧
      CapabilityLoadable capability := by
  constructor
  · intro validated
    simp only [validatedCapability, objectOf, bind, Option.bind_some, Option.bind_eq_some_iff,
      Option.guard_eq_some', exists_const, pure, Option.some.injEq] at validated
    obtain ⟨fields, eligible, eligibleIs, attestation, attestationIs, url, urlIs, reason, reasonIs,
      path, pathIs, pathCanonical, commit, commitIs, commitHex, both, shaped⟩ := validated
    have whole := members_of_keys members normal.1.1
    have eligibleShape : get members "provider_eligible" = .bool eligible := by
      revert eligibleIs
      cases get members "provider_eligible" <;> simp [boolOf]
    subst shaped
    refine ⟨?_, pathCanonical, commitHex, both⟩
    rcases fields with legacy | provider
    · have keys := keys_of_fields members normal _ legacy
      have pathNone : path = none := by
        have absent := present_none members "provider_source_path" (by rw [keys]; decide)
        rw [JsonRecord.get, absent] at pathIs
        cases pathIs
        rfl
      have commitNone : commit = none := by
        have absent := present_none members "provider_source_commit" (by rw [keys]; decide)
        rw [JsonRecord.get, absent] at commitIs
        cases commitIs
        rfl
      left
      rw [whole, keys]
      simp [legacyCapabilityFields, eligibleShape, (named_shape _ _ _ _ attestationIs).1,
        nullable_shape _ _ urlIs, nullable_shape _ _ reasonIs, capabilityWith, sourceMembers,
        pathNone, commitNone]
    · have keys := keys_of_fields members normal _ provider
      have shape : members = capabilityWith ⟨eligible, url, attestation, reason, path, commit⟩
          [("provider_source_commit", optionalText commit),
            ("provider_source_path", optionalText path)] := by
        rw [whole, keys]
        simp [providerCapabilityFields, eligibleShape, (named_shape _ _ _ _ attestationIs).1,
          nullable_shape _ _ urlIs, nullable_shape _ _ reasonIs, nullable_shape _ _ pathIs,
          nullable_shape _ _ commitIs, capabilityWith]
      cases path with
      | none =>
        cases commit with
        | none => exact Or.inr ⟨rfl, shape⟩
        | some text => cases both
      | some text =>
        cases commit with
        | none => cases both
        | some other => exact Or.inl shape
  · rintro ⟨shapes, loadable⟩
    have named : named attestations Attestation.text
        (.str capability.attestation.text : Json F) = some capability.attestation := by
      apply named_text
      · cases capability.attestation <;> decide
      · cases capability.attestation <;> decide
    have fields := sortedSet_of_increasing _ (normal_increasing _ normal)
    simp only [validatedCapability, objectOf, bind, Option.bind_some, Option.bind_eq_some_iff,
      Option.guard_eq_some', exists_const, pure, Option.some.injEq, fieldSet, fields]
    have both := loadable.both
    rcases capability with ⟨eligible, url, attestation, reason, path, commit⟩
    rcases shapes with own | ⟨missing, spelled⟩
    · subst own
      cases path with
      | none =>
        cases commit with
        | none =>
          exact ⟨Or.inl rfl, eligible, rfl, attestation, named, url, nullable_text url, reason,
            nullable_text reason, none, rfl, rfl, none, rfl, rfl, rfl, rfl⟩
        | some text => cases both
      | some text =>
        cases commit with
        | none => cases both
        | some other =>
          exact ⟨Or.inr rfl, eligible, rfl, attestation, named, url, nullable_text url, reason,
            nullable_text reason, some text, rfl, loadable.path, some other, rfl,
            loadable.commit, rfl, rfl⟩
    · subst spelled
      cases missing
      cases commit with
      | none =>
        exact ⟨Or.inr rfl, eligible, rfl, attestation, named, url, nullable_text url, reason,
          nullable_text reason, none, rfl, rfl, none, rfl, rfl, rfl, rfl⟩
      | some text => cases both

/-- A target with the members of its provider source, its output path and the members of its
database fingerprint given. -/
def targetWith (target : BatchTargetPlan) (source : Members F) (output : String)
    (fingerprint : Members F) : Members F :=
  [("capability", .obj (capabilityWith target.capability source))] ++ fingerprint ++
  [("identity", .obj (identityMembers lower target.identity)),
    ("initial_state", .str (stateText target.initialState)), ("output_path", .str output),
    ("target_id", .str target.targetId)]

def fingerprintMembers (target : BatchTargetPlan) : Members F :=
  if target.databaseFingerprint = "" then []
  else [("database_fingerprint", .str target.databaseFingerprint)]

def emptyFingerprint : Members F := [("database_fingerprint", .str "")]

theorem target_normal (target : BatchTargetPlan) :
    JsonValue.normalize (target.toDict lower : Json F) =
      .obj (targetWith lower target (sourceMembers target.capability) target.outputPath
        (fingerprintMembers target)) := by
  by_cases empty : target.databaseFingerprint = "" <;>
    simp +decide [BatchTargetPlan.toDict, targetWith, fingerprintMembers, empty,
      JsonValue.normalize, normalizeMembers, insertMember, capability_normal, identity_normal]

/-- What the loader demands of a target, whatever its spelling. -/
structure TargetLoadable (target : BatchTargetPlan) : Prop where
  identity : IdentityLoadable target.identity
  capability : CapabilityLoadable target.capability
  state : target.initialState ∈ targetStates
  fingerprint : target.databaseFingerprint = "" ∨ isHex 64 target.databaseFingerprint = true
  targetId : target.targetId = target.identity.identityId

/-- The spellings of a target that the loader accepts. -/
structure Spelled (target : BatchTargetPlan) (source : Members F) (output : String)
    (fingerprint : Members F) : Prop where
  source : source = sourceMembers target.capability ∨
    target.capability.providerSourcePath = none ∧ source = nullSource
  output : safeOutput output = some target.outputPath
  fingerprint : fingerprint = fingerprintMembers target ∨
    target.databaseFingerprint = "" ∧ fingerprint = emptyFingerprint

theorem validated_target (members : Members F) (normal : Normal (.obj members))
    (target : BatchTargetPlan) : validatedTarget lower (.obj members) = some target ↔
      ∃ source output fingerprint, members = targetWith lower target source output fingerprint ∧
        Spelled target source output fingerprint ∧ TargetLoadable target := by
  constructor
  · intro validated
    simp only [validatedTarget, objectOf, bind, Option.bind_some, Option.bind_eq_some_iff,
      Option.guard_eq_some', exists_const, pure, Option.some.injEq, is_text] at validated
    obtain ⟨fields, identity, identityIs, idIs, capability, capabilityIs, output, outputIs, state,
      stateIs, fingerprint, fingerprintIs, hex, outputPath, safe, shaped⟩ := validated
    have whole := members_of_keys members normal.1.1
    have normals (key : String) (inside : key ∈ members.map Prod.fst) : Normal (get members key) := by
      obtain ⟨member, held, same⟩ := List.mem_map.mp inside
      rw [← same, JsonRecord.get, get_member members normal.1.1 member held]
      exact normal_member members normal member held
    have some_keys : "identity" ∈ members.map Prod.fst ∧ "capability" ∈ members.map Prod.fst := by
      rcases fields with same | same <;> rw [keys_of_fields members normal _ same] <;> decide
    have identityNormal := normals _ some_keys.1
    have capabilityNormal := normals _ some_keys.2
    cases identityValue : get members "identity" with
    | obj identityRaw =>
      cases capabilityValue : get members "capability" with
      | obj capabilityRaw =>
        rw [identityValue] at identityIs identityNormal
        rw [capabilityValue] at capabilityIs capabilityNormal
        obtain ⟨identityShape, identityLoadable⟩ :=
          (validated_identity lower identityRaw identityNormal identity).mp identityIs
        obtain ⟨capabilityShape, capabilityLoadable⟩ :=
          (validated_capability capabilityRaw capabilityNormal capability).mp capabilityIs
        subst shaped
        obtain ⟨source, sourceIs, sourceShape⟩ : ∃ source : Members F,
            capabilityRaw = capabilityWith capability source ∧ (source = sourceMembers capability ∨
                capability.providerSourcePath = none ∧ source = nullSource) := by
          rcases capabilityShape with own | ⟨missing, spelled⟩
          · exact ⟨_, own, Or.inl rfl⟩
          · exact ⟨_, spelled, Or.inr ⟨missing, rfl⟩⟩
        have loadable : TargetLoadable ⟨identity, outputPath, capability, state,
            identity.identityId, fingerprint⟩ :=
          ⟨identityLoadable, capabilityLoadable, (named_shape _ _ _ _ stateIs).2, hex, rfl⟩
        rcases fields with legacy | current
        · have keys := keys_of_fields members normal _ legacy
          have absent := present_none members "database_fingerprint" (by rw [keys]; decide)
          rw [absent] at fingerprintIs
          cases fingerprintIs
          refine ⟨source, output, [], ?_, ⟨sourceShape, safe, Or.inl rfl⟩, loadable⟩
          rw [whole, keys]
          simp [legacyTargetFields, identityValue, capabilityValue, (plain_text _ _).mp outputIs, idIs,
            (named_shape _ _ _ _ stateIs).1, identityShape, sourceIs, targetWith]
        · have keys := keys_of_fields members normal _ current
          have fingerprintShape : get members "database_fingerprint" = .str fingerprint := by
            obtain ⟨member, held, same⟩ := List.mem_map.mp
              (show "database_fingerprint" ∈ members.map Prod.fst by rw [keys]; decide)
            have own := get_member members normal.1.1 member held
            rw [same] at own
            rw [own] at fingerprintIs
            rw [JsonRecord.get, own]
            exact (plain_text _ _).mp fingerprintIs
          refine ⟨source, output, [("database_fingerprint", .str fingerprint)], ?_,
            ⟨sourceShape, safe, ?_⟩, loadable⟩
          · rw [whole, keys]
            simp [targetFields, identityValue, capabilityValue, (plain_text _ _).mp outputIs, idIs,
              (named_shape _ _ _ _ stateIs).1, identityShape, sourceIs, targetWith,
              fingerprintShape]
          · by_cases empty : fingerprint = ""
            · exact Or.inr ⟨empty, by rw [empty]; rfl⟩
            · exact Or.inl (if_neg empty).symm
      | _ =>
        rw [capabilityValue] at capabilityIs
        cases capabilityIs
    | _ =>
      rw [identityValue] at identityIs
      cases identityIs
  · rintro ⟨source, output, fingerprint, shape, spelled, loadable⟩
    subst shape
    have fields := sortedSet_of_increasing _ (normal_increasing _ normal)
    have identityNormal : Normal (.obj (identityMembers lower target.identity : Members F)) :=
      normal_member _ normal ("identity", _) (by simp [targetWith])
    have capabilityNormal : Normal (.obj (capabilityWith target.capability source)) :=
      normal_member _ normal ("capability", _) (by simp [targetWith])
    have identityIs := (validated_identity lower _ identityNormal target.identity).mpr
      ⟨rfl, loadable.identity⟩
    have capabilityIs : validatedCapability (.obj (capabilityWith target.capability source)) =
        some target.capability := by
      apply (validated_capability _ capabilityNormal target.capability).mpr
      refine ⟨?_, loadable.capability⟩
      rcases spelled.source with own | ⟨missing, null⟩
      · exact Or.inl (by rw [own])
      · exact Or.inr ⟨missing, by rw [null]⟩
    have named : named targetStates stateText (.str (stateText target.initialState) : Json F) =
        some target.initialState := by
      apply named_text _ _ _ loadable.state
      cases target.initialState <;> decide
    simp only [validatedTarget, objectOf, bind, Option.bind_some, Option.bind_eq_some_iff,
      Option.guard_eq_some', exists_const, pure, Option.some.injEq, is_text, fieldSet, fields]
    rcases target with ⟨identity, outputPath, capability, state, targetId, databaseFingerprint⟩
    have idIs := loadable.targetId
    simp only at idIs
    subst idIs
    have safe := spelled.output
    have hex := loadable.fingerprint
    rcases spelled.fingerprint with own | ⟨empty, spelledOut⟩
    · subst own
      by_cases empty : databaseFingerprint = ""
      · have none : fingerprintMembers (F := F) ⟨identity, outputPath, capability, state,
            identity.identityId, databaseFingerprint⟩ = [] := if_pos empty
        rw [none]
        exact ⟨Or.inl rfl, identity, identityIs, rfl, capability, capabilityIs, output, rfl, state,
          named, "", rfl, Or.inl rfl, outputPath, safe, by rw [empty]⟩
      · have one : fingerprintMembers (F := F) ⟨identity, outputPath, capability, state,
            identity.identityId, databaseFingerprint⟩ =
              [("database_fingerprint", .str databaseFingerprint)] := if_neg empty
        rw [one]
        exact ⟨Or.inr rfl, identity, identityIs, rfl, capability, capabilityIs, output, rfl, state,
          named, databaseFingerprint, rfl, hex, outputPath, safe, rfl⟩
    · subst spelledOut
      simp only at empty
      subst empty
      exact ⟨Or.inr rfl, identity, identityIs, rfl, capability, capabilityIs, output, rfl, state,
        named, "", rfl, Or.inl rfl, outputPath, safe, rfl⟩

end DosWeb.Batch.Plan
