import DosWeb.Artifacts.ReadBack
import DosWeb.Batch.PlanDictionaries
import DosWeb.CanonicalJson
import DosWeb.Library.Owners

/-!
Plans and their files: a published plan loads as itself, and a loaded plan stands for its file,
exactly where the file spells every target as the plan would.
-/

namespace DosWeb.Batch.Plan

open Library Library.JsonValue Library.JsonText Library.JsonRecord Library.OrderedSet Identifiers

variable {F : Type} [FloatText F] (lower : String → String)

section

def analysisMembers (plan : BatchPlan F) : Members F :=
  plan.analysisMode.elim [] fun analysisMode => [("analysis_mode", .str analysisMode.text)]

def policyMembers (plan : BatchPlan F) : Members F :=
  plan.analysisMode.elim [] fun _ => [("query_failure_policy",
    .str (plan.queryFailurePolicy.elim "" QueryFailurePolicy.text))]

/-- The unsigned members of a plan with its targets given. -/
def unsignedWith (plan : BatchPlan F) (items : List (Json F)) : Members F :=
  analysisMembers plan ++ [("batch_schema_version", .str plan.batchSchemaVersion),
    ("inventory_digest", .str plan.inventoryDigest), ("mode", .str plan.mode.text),
    ("output_root", .str plan.outputRoot),
    ("provider", .obj plan.provider)] ++ policyMembers plan ++ [("run_id", .str plan.runId),
    ("schema_version", plan.schemaVersion), ("targets", .arr items),
    ("tool_version", .str plan.toolVersion)]

def rawWith (plan : BatchPlan F) (items : List (Json F)) : Members F := analysisMembers plan ++ [
    ("batch_schema_version", .str plan.batchSchemaVersion),
    ("inventory_digest", .str plan.inventoryDigest), ("mode", .str plan.mode.text),
    ("output_root", .str plan.outputRoot), ("plan_digest", .str plan.planDigest),
    ("plan_id", .str plan.planId), ("provider", .obj plan.provider)] ++ policyMembers plan ++ [
    ("run_id", .str plan.runId), ("schema_version", plan.schemaVersion), ("targets", .arr items),
    ("tool_version", .str plan.toolVersion)]

def ownItems (plan : BatchPlan F) : List (Json F) :=
  plan.targets.map fun target => JsonValue.normalize (target.toDict lower)

variable (plan : BatchPlan F)

omit [FloatText F] in
theorem items_normal :
    normalizeItems (plan.targets.map (BatchTargetPlan.toDict lower)) = ownItems lower plan := by
  rw [normalizeItems_eq_map, List.map_map]
  rfl

/-- The parts of a plan that are dictionary values are in normal form. -/
structure PlanNormal (plan : BatchPlan F) : Prop where
  schemaVersion : Normal plan.schemaVersion
  provider : Normal (.obj plan.provider)

omit [FloatText F] in
theorem unsigned_normal (normal : PlanNormal plan) : JsonValue.normalize (plan.unsignedDict lower) =
      .obj (unsignedWith plan (ownItems lower plan)) := by
  have schema := normal.schemaVersion.2
  have provider := Json.obj.inj normal.provider.2
  cases mode : plan.analysisMode <;>
    simp +decide [BatchPlan.unsignedDict, unsignedWith, analysisMembers, policyMembers, mode,
      JsonValue.normalize, normalizeMembers, insertMember, schema, provider, items_normal]

omit [FloatText F] in
theorem plan_normal (normal : PlanNormal plan) :
    JsonValue.normalize (plan.toDict lower) = .obj (rawWith plan (ownItems lower plan)) := by
  have schema := normal.schemaVersion.2
  have provider := Json.obj.inj normal.provider.2
  cases mode : plan.analysisMode <;>
    simp +decide [BatchPlan.toDict, membersOf, BatchPlan.unsignedDict, rawWith, analysisMembers,
      policyMembers, mode, JsonValue.normalize, normalizeMembers, insertMember, schema, provider,
      items_normal]

omit [FloatText F] in
theorem unsigned_raw (items : List (Json F)) :
    unsignedRaw (rawWith plan items) = .obj (unsignedWith plan items) := by
  cases mode : plan.analysisMode <;>
    simp +decide [unsignedRaw, rawWith, unsignedWith, analysisMembers, policyMembers, mode]

/-- What the loader demands of a plan beside its targets. -/
structure PlanLoadable (plan : BatchPlan F) : Prop where
  schemaVersion : isOne plan.schemaVersion = true
  toolVersion : plan.toolVersion ≠ ""
  digest : isHex 64 plan.planDigest = true
  planId : Text.startsWith plan.planId "plan:" = true ∧
    isHex 24 (Text.removeLead plan.planId "plan:") = true
  batchSchemaVersion : plan.batchSchemaVersion ∈ batchSchemaVersions
  policy : plan.analysisMode.isSome = plan.queryFailurePolicy.isSome
  runId : safeRunId plan.runId = true
  outputRoot : safeOutput plan.outputRoot = some plan.outputRoot
  inventory : isHex 64 plan.inventoryDigest = true
  provider : (providerSettings plan.provider).isOk = true
  outputs : ∃ outputs, (plan.targets.mapM fun target => effectiveOutputKey target.outputPath) =
    some outputs ∧ outputs.Nodup
  expected : ∀ target ∈ plan.targets,
    target.outputPath = targetOutput lower plan.outputRoot target.identity
  indexes : (plan.targets.map fun target => target.identity.index).Nodup
  targetIds : (plan.targets.map BatchTargetPlan.targetId).Nodup

omit [FloatText F] in
theorem raw_held (items : List (Json F)) (normal : Normal (.obj (rawWith plan items)))
    (key : String) (value : Json F) (member : (key, value) ∈ rawWith plan items) :
    get (rawWith plan items) key = value := by
  rw [JsonRecord.get, get_member _ normal.1.1 (key, value) member]
  rfl

theorem validated_plan (raw : Members F) (normal : Normal (.obj raw))
    (fields : fieldSet raw = legacyRequired ∨ fieldSet raw = required) (plan : BatchPlan F) :
    validatedPlan lower raw = some plan ↔ ∃ items, raw = rawWith plan items ∧
        items.mapM (validatedTarget lower) = some plan.targets ∧ PlanLoadable lower plan := by
  constructor
  · intro validated
    unfold validatedPlan at validated
    obtain ⟨one, validated⟩ := guard_bind.mp validated
    obtain ⟨tool, toolIs, validated⟩ := some_bind.mp validated
    obtain ⟨digest, digestIs, validated⟩ := some_bind.mp validated
    obtain ⟨digestHex, validated⟩ := guard_bind.mp validated
    obtain ⟨planId, planIdIs, validated⟩ := some_bind.mp validated
    obtain ⟨planIdHex, validated⟩ := guard_bind.mp validated
    obtain ⟨schema, schemaIs, validated⟩ := some_bind.mp validated
    obtain ⟨schemaKnown, validated⟩ := guard_bind.mp validated
    obtain ⟨mode, modeIs, validated⟩ := some_bind.mp validated
    obtain ⟨analysis, analysisIs, validated⟩ := some_bind.mp validated
    obtain ⟨policy, policyIs, validated⟩ := some_bind.mp validated
    obtain ⟨runId, runIdIs, validated⟩ := some_bind.mp validated
    obtain ⟨runIdSafe, validated⟩ := guard_bind.mp validated
    obtain ⟨root, rootIs, validated⟩ := some_bind.mp validated
    obtain ⟨outputRoot, safe, validated⟩ := some_bind.mp validated
    obtain ⟨sameRoot, validated⟩ := guard_bind.mp validated
    obtain ⟨inventory, inventoryIs, validated⟩ := some_bind.mp validated
    obtain ⟨inventoryHex, validated⟩ := guard_bind.mp validated
    obtain ⟨provider, providerIs, validated⟩ := some_bind.mp validated
    obtain ⟨accepted, validated⟩ := guard_bind.mp validated
    obtain ⟨items, itemsIs, validated⟩ := some_bind.mp validated
    obtain ⟨targets, targetsIs, validated⟩ := some_bind.mp validated
    obtain ⟨outputs, outputsIs, validated⟩ := some_bind.mp validated
    obtain ⟨expected, validated⟩ := guard_bind.mp validated
    obtain ⟨indexes, validated⟩ := guard_bind.mp validated
    obtain ⟨ids, validated⟩ := guard_bind.mp validated
    obtain ⟨apart, validated⟩ := guard_bind.mp validated
    cases validated
    subst sameRoot
    have whole := members_of_keys raw normal.1.1
    have text (key held : String) := (plain_text (get raw key) held).mp
    have providerShape := (object_of _ _).mp providerIs
    have itemsShape : get raw "targets" = .arr items := by
      revert itemsIs
      cases get raw "targets" <;> simp [arrayOf]
    refine ⟨items, ?_, targetsIs, one, (filled_text _ _ toolIs).2, digestHex, planIdHex,
      schemaKnown, ?_, runIdSafe, safe, inventoryHex, accepted, ⟨outputs, outputsIs, apart⟩,
      expected, indexes, ids⟩
    · rcases fields with legacy | current
      · have other : fieldSet raw ≠ required := by
          rw [legacy]
          decide
        simp only [currentName, other, decide_false, Bool.false_eq_true, if_false]
          at analysisIs policyIs
        cases analysisIs
        cases policyIs
        apply whole.trans
        rw [keys_of_fields raw normal _ legacy]
        simp [legacyRequired, rawWith, analysisMembers, policyMembers, text _ _ digestIs,
          text _ _ planIdIs, text _ _ schemaIs, text _ _ runIdIs, text _ _ rootIs,
          text _ _ inventoryIs, (named_shape _ _ _ _ modeIs).1, (filled_text _ _ toolIs).1,
          providerShape, itemsShape]
      · simp only [currentName, current, decide_true, if_true] at analysisIs policyIs
        obtain ⟨analysisMode, analysisNamed, rfl⟩ := Option.map_eq_some_iff.mp analysisIs
        obtain ⟨failurePolicy, policyNamed, rfl⟩ := Option.map_eq_some_iff.mp policyIs
        apply whole.trans
        rw [keys_of_fields raw normal _ current]
        simp [required, rawWith, analysisMembers, policyMembers, text _ _ digestIs,
          text _ _ planIdIs, text _ _ schemaIs, text _ _ runIdIs, text _ _ rootIs,
          text _ _ inventoryIs, (named_shape _ _ _ _ modeIs).1, (filled_text _ _ toolIs).1,
          providerShape, itemsShape, (named_shape _ _ _ _ analysisNamed).1,
          (named_shape _ _ _ _ policyNamed).1]
    · by_cases current : fieldSet raw = required
      · simp only [currentName, current, decide_true, if_true] at analysisIs policyIs
        obtain ⟨_, _, rfl⟩ := Option.map_eq_some_iff.mp analysisIs
        obtain ⟨_, _, rfl⟩ := Option.map_eq_some_iff.mp policyIs
        rfl
      · simp only [currentName, current, decide_false, Bool.false_eq_true, if_false] at analysisIs policyIs
        cases analysisIs
        cases policyIs
        rfl
  · rintro ⟨items, shape, targetsIs, loadable⟩
    subst shape
    have names : fieldSet (rawWith plan items) = (rawWith plan items).map Prod.fst :=
      sortedSet_of_increasing _ (normal_increasing _ normal)
    have stands := raw_held plan items normal
    have tool : filledText (.str plan.toolVersion : Json F) = some plan.toolVersion :=
      if_neg loadable.toolVersion
    have mode : named batchModes BatchMode.text (.str plan.mode.text : Json F) = some plan.mode := by
      apply named_text
      · cases plan.mode <;> decide
      · cases plan.mode <;> decide
    obtain ⟨outputs, outputsIs, apart⟩ := loadable.outputs
    have policy := loadable.policy
    have current : decide (fieldSet (rawWith plan items) = required) = plan.analysisMode.isSome := by
      rw [names]
      cases written : plan.analysisMode <;>
        simp +decide [rawWith, analysisMembers, policyMembers, written, required]
    have analysis : currentName plan.analysisMode.isSome analysisModes AnalysisMode.text
        (get (rawWith plan items) "analysis_mode") = some plan.analysisMode := by
      cases written : plan.analysisMode with
      | none => rfl
      | some analysisMode =>
        rw [stands _ (.str analysisMode.text) (by simp [rawWith, analysisMembers, written])]
        cases analysisMode <;> rfl
    have failures : currentName plan.analysisMode.isSome queryFailurePolicies
        QueryFailurePolicy.text (get (rawWith plan items) "query_failure_policy") =
          some plan.queryFailurePolicy := by
      cases written : plan.analysisMode with
      | none =>
        rw [written] at policy
        rw [Option.isSome_eq_false_iff.mp policy.symm |> Option.isNone_iff_eq_none.mp]
        rfl
      | some analysisMode =>
        rw [written] at policy
        obtain ⟨failurePolicy, chosen⟩ := Option.isSome_iff_exists.mp policy.symm
        rw [stands _ (.str failurePolicy.text)
          (by simp [rawWith, policyMembers, written, chosen]), chosen]
        cases failurePolicy <;> rfl
    have schemaIs := stands "schema_version" plan.schemaVersion (by simp [rawWith])
    have toolIs := stands "tool_version" (.str plan.toolVersion) (by simp [rawWith])
    have digestIs := stands "plan_digest" (.str plan.planDigest) (by simp [rawWith])
    have planIdIs := stands "plan_id" (.str plan.planId) (by simp [rawWith])
    have batchIs := stands "batch_schema_version" (.str plan.batchSchemaVersion) (by simp [rawWith])
    have modeIs := stands "mode" (.str plan.mode.text) (by simp [rawWith])
    have runIs := stands "run_id" (.str plan.runId) (by simp [rawWith])
    have rootIs := stands "output_root" (.str plan.outputRoot) (by simp [rawWith])
    have inventoryIs := stands "inventory_digest" (.str plan.inventoryDigest) (by simp [rawWith])
    have providerIs := stands "provider" (.obj plan.provider) (by simp [rawWith])
    have itemsIs := stands "targets" (.arr items) (by simp [rawWith])
    have allowed : ∀ (condition : Prop) [Decidable condition], condition →
        (guard condition : Option Unit) = some () :=
      fun condition _ held => (Option.guard_eq_some' ()).mpr held
    simp only [validatedPlan, schemaIs, toolIs, digestIs, planIdIs, batchIs, modeIs, runIs, rootIs,
      inventoryIs, providerIs, itemsIs, tool, mode, current, analysis, failures, plainText, objectOf,
      arrayOf, loadable.outputRoot, targetsIs, outputsIs, allowed _ loadable.schemaVersion,
      allowed _ loadable.digest, allowed _ loadable.planId, allowed _ loadable.batchSchemaVersion,
      allowed _ loadable.runId, allowed _ loadable.inventory, allowed _ loadable.provider,
      allowed _ loadable.expected, allowed _ loadable.indexes, allowed _ loadable.targetIds,
      allowed _ apart, allowed True trivial, bind, Option.bind_some, pure]

end

/-- A target spelled as a plan spells it: its output path in normal form, no empty database
fingerprint and no null provider source. -/
structure AsWritten (members : Members F) : Prop where
  output : ∃ output, get members "output_path" = .str output ∧ safeOutput output = some output
  fingerprint : present members "database_fingerprint" ≠ some (.str "")
  source : ∃ capability, get members "capability" = .obj capability ∧
    present capability "provider_source_path" ≠ some .null

omit [FloatText F] in
theorem safe_output_fixed (value output : String) (safe : safeOutput value = some output) :
    safeOutput output = some output := by
  obtain ⟨normal, found, same⟩ := Option.map_eq_some_iff.mp safe
  subst same
  have fixed := Entries.normal_path_fixed _ _ found
  rw [safeOutput, String.toList_ofList, fixed]
  rfl

omit [FloatText F] in
theorem as_written_iff (target : BatchTargetPlan) (source : Members F) (output : String)
    (fingerprint : Members F) (spelled : Spelled target source output fingerprint)
    (loadable : CapabilityLoadable target.capability) :
    AsWritten (targetWith lower target source output fingerprint) ↔
      source = sourceMembers target.capability ∧ output = target.outputPath ∧
        fingerprint = fingerprintMembers target := by
  have outputIs : get (targetWith lower target source output fingerprint) "output_path" =
      .str output := by
    rcases spelled.fingerprint with own | ⟨_, own⟩
    · by_cases empty : target.databaseFingerprint = "" <;>
        simp +decide [own, fingerprintMembers, empty, targetWith, JsonRecord.get, present, field]
    · simp +decide [own, emptyFingerprint, targetWith, JsonRecord.get, present, field]
  have capabilityIs : get (targetWith lower target source output fingerprint) "capability" =
      .obj (capabilityWith target.capability source) := by
    simp [targetWith, JsonRecord.get, present, field]
  constructor
  · intro written
    obtain ⟨held, heldIs, fixed⟩ := written.output
    rw [outputIs] at heldIs
    cases heldIs
    have same : output = target.outputPath := Option.some_inj.mp (fixed.symm.trans spelled.output)
    refine ⟨?_, same, ?_⟩
    · rcases spelled.source with own | ⟨_, null⟩
      · exact own
      · obtain ⟨capability, capabilityHeld, given⟩ := written.source
        rw [capabilityIs] at capabilityHeld
        cases capabilityHeld
        exfalso
        apply given
        simp +decide [null, nullSource, capabilityWith, present, field]
    · rcases spelled.fingerprint with own | ⟨_, empty⟩
      · exact own
      · exfalso
        apply written.fingerprint
        simp +decide [empty, emptyFingerprint, targetWith, present, field]
  · rintro ⟨sourceIs, same, fingerprintIs⟩
    refine ⟨⟨output, outputIs, ?_⟩, ?_, ⟨_, capabilityIs, ?_⟩⟩
    · rw [same]
      exact safe_output_fixed output target.outputPath spelled.output
    · subst fingerprintIs
      by_cases empty : target.databaseFingerprint = "" <;>
        simp +decide [fingerprintMembers, empty, targetWith, present, field]
    · subst sourceIs
      have both := loadable.both
      rcases target with ⟨_, _, ⟨eligible, url, attestation, reason, path, commit⟩, _, _, _⟩
      cases path <;> cases commit <;>
        simp +decide [sourceMembers, capabilityWith, present, field]

omit [FloatText F] in
theorem newlines_fixed (text : List Char) (plain : '\r' ∉ text) : universalNewlines text = text := by
  induction text with
  | nil => rfl
  | cons c text ih =>
    obtain ⟨own, rest⟩ := List.ne_and_not_mem_of_not_mem_cons plain
    rw [universalNewlines.eq_def]
    split
    · rename_i same
      exact absurd (List.cons.inj same).1.symm own
    · rename_i same
      exact absurd (List.cons.inj same).1.symm own
    · rename_i other tail _ _ same
      cases same
      rw [ih rest]
    · rename_i same
      cases same

theorem read_normal (content : List UInt8) (value : Json F) (read : readPlan content = some value) :
    Normal value := by
  obtain ⟨text, _, own⟩ := Option.bind_eq_some_iff.mp read
  exact JsonLoads.loads_normal maxIntegerDigits _ value own

variable [LawfulFloatText F]

theorem read_published (value : Json F) (printed : printable maxIntegerDigits value = true)
    (distinct : DistinctKeys value) :
    readPlan (canonicalJson value ++ [10]) = some (JsonValue.normalize value) := by
  have bytes : canonicalJson value ++ [10] =
      Text.utf8 (render (JsonValue.normalize value) ++ ['\n']) := by
    rw [Bytes.utf8_append]
    rfl
  have plain : '\r' ∉ render (JsonValue.normalize value) ++ ['\n'] := by
    intro member
    rcases List.mem_append.mp member with inside | last
    · apply (Artifacts.canonical_one_line value printed).2
      exact List.mem_flatMap.mpr ⟨'\r', inside, by decide⟩
    · revert last
      decide
  rw [readPlan, bytes, Bytes.decodeUtf8_utf8]
  apply Eq.trans _ (JsonLoads.loads_canonical maxIntegerDigits value printed distinct)
  exact congrArg (JsonLoads.loads maxIntegerDigits) (newlines_fixed _ plain)

omit [FloatText F] [LawfulFloatText F] in
theorem raw_fields (plan : BatchPlan F) (items : List (Json F))
    (normal : Normal (.obj (rawWith plan items))) :
    fieldSet (rawWith plan items) = legacyRequired ∨ fieldSet (rawWith plan items) = required := by
  have names : fieldSet (rawWith plan items) = (rawWith plan items).map Prod.fst :=
    sortedSet_of_increasing _ (normal_increasing _ normal)
  rw [names]
  cases mode : plan.analysisMode with
  | none => exact Or.inl (by simp [rawWith, analysisMembers, policyMembers, mode, legacyRequired])
  | some _ => exact Or.inr (by simp [rawWith, analysisMembers, policyMembers, mode, required])

omit [LawfulFloatText F] in
theorem load_ok (content : List UInt8) (plan : BatchPlan F) :
    loadBatchPlan lower content = .ok plan ↔
      ∃ items, readPlan content = some (.obj (rawWith plan items)) ∧
        digestOf (.obj (unsignedWith plan items)) = some plan.planDigest ∧
        plan.planId = planIdOf plan.planDigest ∧
        items.mapM (validatedTarget lower) = some plan.targets ∧ PlanLoadable lower plan := by
  constructor
  · intro loaded
    unfold loadBatchPlan at loaded
    split at loaded
    · cases loaded
    · rename_i raw read
      have normal := read_normal content (.obj raw) read
      obtain ⟨_, allowed, loaded⟩ := bind_ok.mp loaded
      have fields := (of_decide_eq_true ((require_ok _ _ _).mp allowed)).1
      split at loaded
      · cases loaded
      · rename_i digest digestIs
        obtain ⟨_, matched, loaded⟩ := bind_ok.mp loaded
        obtain ⟨digestText, idText⟩ := of_decide_eq_true ((require_ok _ _ _).mp matched)
        split at loaded
        · cases loaded
        · rename_i held validated
          cases loaded
          obtain ⟨items, shape, targetsIs, loadable⟩ :=
            (validated_plan lower raw normal fields plan).mp validated
          subst shape
          have stands := raw_held plan items normal
          rw [is_text, stands "plan_digest" (.str plan.planDigest) (by simp [rawWith])] at digestText
          rw [is_text, stands "plan_id" (.str plan.planId) (by simp [rawWith])] at idText
          rw [unsigned_raw] at digestIs
          rw [← Json.str.inj digestText] at digestIs idText
          exact ⟨items, read, digestIs, Json.str.inj idText, targetsIs, loadable⟩
    · cases loaded
  · rintro ⟨items, read, digestIs, idIs, targetsIs, loadable⟩
    have normal := read_normal content _ read
    have fields := raw_fields plan items normal
    have validated := (validated_plan lower _ normal fields plan).mpr
      ⟨items, rfl, targetsIs, loadable⟩
    have stands := raw_held plan items normal
    have allowed (condition : Bool) (raised : Raised) (held : condition = true) :
        require condition raised = .ok () := (require_ok condition raised ()).mpr held
    unfold loadBatchPlan
    simp only [read, unsigned_raw, digestIs, validated]
    rw [allowed, allowed]
    · rfl
    · rw [decide_eq_true_iff, is_text, is_text, ← idIs,
        stands "plan_digest" (.str plan.planDigest) (by simp [rawWith]),
        stands "plan_id" (.str plan.planId) (by simp [rawWith])]
      exact ⟨rfl, rfl⟩
    · rw [decide_eq_true_iff, stands "targets" (.arr items) (by simp [rawWith])]
      exact ⟨fields, rfl⟩

end DosWeb.Batch.Plan
