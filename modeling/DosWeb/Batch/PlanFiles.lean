import DosWeb.Batch.PlanRoundTrip

/-!
What becomes of a plan that is published or loaded.
-/

namespace DosWeb.Batch.Plan

open Library Library.JsonValue Library.JsonText Library.JsonRecord Identifiers

variable {F : Type} (lower : String → String)

theorem target_distinct (target : BatchTargetPlan) :
    DistinctKeys (target.toDict lower : Json F) := by
  rcases target with ⟨identity, outputPath, ⟨eligible, url, attestation, reason, path, commit⟩,
    state, targetId, fingerprint⟩
  by_cases empty : fingerprint = "" <;> cases url <;> cases reason <;> cases path <;>
    cases commit <;>
    simp +decide [BatchTargetPlan.toDict, TargetIdentity.toDict, TargetIdentity.semanticIdentity,
      TargetCapability.toDict, optionalText, empty, DistinctKeys, DistinctMembers]

section

variable (plan : BatchPlan F)

theorem targets_distinct :
    DistinctItems (plan.targets.map (BatchTargetPlan.toDict lower) : List (Json F)) := by
  apply (distinctItems_iff _).mpr
  intro item member
  obtain ⟨target, _, same⟩ := List.mem_map.mp member
  rw [← same]
  exact target_distinct lower target

theorem plan_distinct (normal : PlanNormal plan) : DistinctKeys (plan.toDict lower) := by
  have provider := normal.provider.1
  have schema := normal.schemaVersion.1
  have targets := targets_distinct lower plan
  cases mode : plan.analysisMode <;>
    simp +decide [BatchPlan.toDict, BatchPlan.unsignedDict, membersOf, mode, DistinctKeys,
      DistinctMembers, schema, targets] <;> exact provider

theorem unsigned_distinct (normal : PlanNormal plan) : DistinctKeys (plan.unsignedDict lower) := by
  have provider := normal.provider.1
  have schema := normal.schemaVersion.1
  have targets := targets_distinct lower plan
  cases mode : plan.analysisMode <;>
    simp +decide [BatchPlan.unsignedDict, mode, DistinctKeys, DistinctMembers, schema, targets] <;>
    exact provider

variable [FloatText F]

theorem plan_printable (printed : printable maxIntegerDigits (plan.unsignedDict lower) = true) :
    printable maxIntegerDigits (plan.toDict lower) = true := by
  apply (JsonRoundTrip.printableMembers_iff _ _).mpr
  intro member inside
  rcases List.mem_append.mp inside with own | added
  · exact (JsonRoundTrip.printableMembers_iff _ _).mp printed member own
  · simp only [List.mem_cons, List.not_mem_nil, or_false] at added
    rcases added with same | same <;> rw [same] <;> rfl

theorem verify_iff (normal : PlanNormal plan) : plan.verifyDigest lower = true ↔
      digestOf (.obj (unsignedWith plan (ownItems lower plan))) = some plan.planDigest := by
  rw [← unsigned_normal lower plan normal, digest_normalize _ (unsigned_distinct lower plan normal)]
  exact decide_eq_true_iff

end

def ItemAsWritten (item : Json F) : Prop := ∃ members, item = .obj members ∧ AsWritten members

theorem target_parts (target : BatchTargetPlan) (source other : Members F)
    (output path : String) (fingerprint added : Members F)
    (same : targetWith lower target source output fingerprint =
      targetWith lower target other path added) : output = path := by
  have rest := (List.append_inj' same rfl).2
  simpa using rest

theorem target_is_normal (target : BatchTargetPlan) :
    Normal (JsonValue.normalize (target.toDict lower : Json F)) :=
  ⟨distinctKeys_normalize _ (target_distinct lower target),
    normalize_idempotent _ (target_distinct lower target)⟩

theorem validated_own (target : BatchTargetPlan) :
    validatedTarget lower (JsonValue.normalize (target.toDict lower : Json F)) = some target ↔
      TargetLoadable target ∧ safeOutput target.outputPath = some target.outputPath := by
  have normal := target_is_normal (F := F) lower target
  rw [target_normal] at normal ⊢
  rw [validated_target lower _ normal target]
  constructor
  · intro ⟨source, output, fingerprint, shape, spelled, loadable⟩
    have safe := spelled.output
    rw [← target_parts lower target _ _ _ _ _ _ shape] at safe
    exact ⟨loadable, safe⟩
  · intro ⟨loadable, safe⟩
    exact ⟨_, _, _, rfl, ⟨Or.inl rfl, safe, Or.inl rfl⟩, loadable⟩

theorem own_items_valid (plan : BatchPlan F) :
    (ownItems lower plan).mapM (validatedTarget lower) = some plan.targets ↔
      ∀ target ∈ plan.targets,
        TargetLoadable target ∧ safeOutput target.outputPath = some target.outputPath := by
  rw [Owners.reads_mapM, ownItems, List.map_map]
  constructor
  · intro reads target member
    exact (validated_own (F := F) lower target).mp (List.map_inj_left.mp reads target member)
  · intro each
    apply List.map_inj_left.mpr
    intro target member
    exact (validated_own lower target).mpr (each target member)

theorem item_as_written_iff (item : Json F) (normal : Normal item) (target : BatchTargetPlan)
    (validated : validatedTarget lower item = some target) :
    ItemAsWritten item ↔ JsonValue.normalize (target.toDict lower) = item := by
  cases item with
  | obj members =>
    obtain ⟨source, output, fingerprint, shape, spelled, loadable⟩ :=
      (validated_target lower members normal target).mp validated
    have written := as_written_iff lower target source output fingerprint spelled
      loadable.capability
    rw [← shape] at written
    rw [target_normal]
    constructor
    · intro ⟨held, same, own⟩
      cases same
      obtain ⟨sourceIs, outputIs, fingerprintIs⟩ := written.mp own
      rw [shape, sourceIs, outputIs, fingerprintIs]
    · intro same
      have own := Json.obj.inj same
      have safe := spelled.output
      rw [← target_parts lower target _ _ _ _ _ _ (own.trans shape)] at safe
      refine ⟨members, rfl, ?_⟩
      rw [← own]
      exact (as_written_iff lower target _ _ _ ⟨Or.inl rfl, safe, Or.inl rfl⟩
        loadable.capability).mpr ⟨rfl, rfl, rfl⟩
  | _ => cases validated

/-- The items of a file are those of its plan exactly where each is spelled as the plan spells
it. -/
theorem items_as_written (items : List (Json F)) (normal : Normal (.arr items))
    (plan : BatchPlan F) (validated : items.mapM (validatedTarget lower) = some plan.targets) :
    (∀ item ∈ items, ItemAsWritten item) ↔ ownItems lower plan = items := by
  have reads := (Owners.reads_mapM _ _ _).mp validated
  have own (item : Json F) (member : item ∈ items) := normal_items items normal item member
  constructor
  · intro each
    have same := Owners.reads_project _ items plan.targets reads id
      (fun target => JsonValue.normalize (target.toDict lower)) fun item member target valid =>
        (item_as_written_iff lower item (own item member) target valid).mp (each item member)
    rw [List.map_id] at same
    exact same
  · intro same item member
    obtain ⟨target, _, valid⟩ := (Owners.reads_item _ items plan.targets reads).1 item member
    have held : item ∈ ownItems lower plan := by
      rw [same]
      exact member
    obtain ⟨other, otherMember, shape⟩ := List.mem_map.mp held
    apply (item_as_written_iff lower item (own item member) other _).mpr shape
    rw [← shape]
    have whole := (own_items_valid lower plan).mp (by rw [same]; exact validated) other otherMember
    exact (validated_own lower other).mpr whole

section

variable [FloatText F] [LawfulFloatText F]

omit [FloatText F] [LawfulFloatText F] in
theorem raw_injective (plan : BatchPlan F) (left right : List (Json F)) :
    (rawWith plan left = rawWith plan right → left = right) ∧
      (unsignedWith plan left = unsignedWith plan right → left = right) := by
  constructor
  · intro same
    have rest := (List.append_inj' same rfl).2
    simpa using rest
  · intro same
    have rest := (List.append_inj' same rfl).2
    simpa using rest

omit [LawfulFloatText F] in
theorem publish_ok (plan : BatchPlan F) (verified : plan.verifyDigest lower = true) :
    publishBatchPlan lower plan = .ok (publishedPlanPayloads lower plan) := by
  rw [publishBatchPlan, verified]
  rfl

/-- A verified plan that is published loads as itself where the loader accepts its targets and
its other members. -/
theorem load_published (plan : BatchPlan F) (normal : PlanNormal plan)
    (verified : plan.verifyDigest lower = true) :
    loadBatchPlan lower (publishedPlanPayloads lower plan).1 = .ok plan ↔
      plan.planId = planIdOf plan.planDigest ∧ PlanLoadable lower plan ∧ ∀ target ∈ plan.targets,
          TargetLoadable target ∧ safeOutput target.outputPath = some target.outputPath := by
  have printed := plan_printable lower plan
    ((digest_of _ _).mp (of_decide_eq_true verified)).1
  have read := read_published (plan.toDict lower) printed (plan_distinct lower plan normal)
  rw [plan_normal lower plan normal] at read
  have digest := (verify_iff lower plan normal).mp verified
  rw [load_ok, publishedPlanPayloads, ← own_items_valid lower plan]
  constructor
  · intro ⟨items, readItems, _, idIs, targetsIs, loadable⟩
    have same := (raw_injective plan _ _).1
      (Json.obj.inj (Option.some.inj (read.symm.trans readItems)))
    rw [← same] at targetsIs
    exact ⟨idIs, loadable, targetsIs⟩
  · intro ⟨idIs, loadable, targetsIs⟩
    exact ⟨_, read, digest, idIs, targetsIs, loadable⟩

/-- A plan that its runner, the archive and the aggregator accept, and that a file keeps. -/
def Stands (plan : BatchPlan F) : Prop :=
  plan.verifyDigest lower = true ∧ archiveAccepts lower plan = true ∧
    ∃ files, publishBatchPlan lower plan = .ok files ∧ loadBatchPlan lower files.1 = .ok plan

def fileUnsigned (content : List UInt8) : Json F :=
  unsignedRaw ((readPlan content).elim [] membersOf)

def fileTargets (content : List UInt8) : List (Json F) :=
  (arrayOf (get ((readPlan content).elim [] membersOf) "targets")).getD []

omit [LawfulFloatText F] in
theorem file_parts (content : List UInt8) (plan : BatchPlan F) (items : List (Json F))
    (read : readPlan content = some (.obj (rawWith plan items))) :
    fileUnsigned content = .obj (unsignedWith plan items) ∧ fileTargets content = items := by
  have normal := read_normal content _ read
  have targets : get (rawWith plan items) "targets" = .arr items := by
    rw [JsonRecord.get, get_member _ normal.1.1 ("targets", .arr items) (by simp [rawWith])]
    rfl
  constructor
  · rw [fileUnsigned, read]
    exact unsigned_raw plan items
  · rw [fileTargets, read]
    exact congrArg (fun value => (arrayOf value).getD []) targets

theorem loaded_plan_stands_iff (content : List UInt8) (plan : BatchPlan F)
    (loaded : loadBatchPlan lower content = .ok plan)
    (collisionFree : CollisionFree (canonicalJson (plan.unsignedDict lower))
      (canonicalJson (fileUnsigned (F := F) content))) :
    Stands lower plan ↔ ∀ item ∈ fileTargets (F := F) content, ItemAsWritten item := by
  obtain ⟨items, read, digestIs, idIs, targetsIs, loadable⟩ := (load_ok lower content plan).mp loaded
  obtain ⟨unsignedIs, targetsHeld⟩ := file_parts content plan items read
  rw [unsignedIs] at collisionFree
  rw [targetsHeld]
  have normal := read_normal content _ read
  have own (member : String × Json F) (inside : member ∈ rawWith plan items) :=
    normal_member _ normal member inside
  have planNormal : PlanNormal plan :=
    ⟨own ("schema_version", _) (by simp [rawWith]), own ("provider", _) (by simp [rawWith])⟩
  have itemsNormal : Normal (.arr items) := own ("targets", _) (by simp [rawWith])
  rw [items_as_written lower items itemsNormal plan targetsIs]
  constructor
  · rintro ⟨verified, _, _⟩
    have ownDigest := (digest_of _ _).mp (of_decide_eq_true verified)
    have fileDigest := (digest_of _ _).mp digestIs
    have same := collisionFree (ownDigest.2.trans fileDigest.2.symm)
    have fileNormal : Normal (.obj (unsignedWith plan items)) := by
      rw [← unsigned_raw plan items]
      exact normal_filter _ normal _
    have equal := canonical_injective _ _ ownDigest.1 fileDigest.1
      (unsigned_distinct lower plan planNormal) fileNormal.1 same
    rw [unsigned_normal lower plan planNormal, fileNormal.2] at equal
    exact (raw_injective plan _ _).2 (Json.obj.inj equal)
  · intro same
    have verified : plan.verifyDigest lower = true := by
      rw [verify_iff lower plan planNormal, same]
      exact digestIs
    refine ⟨verified, ?_, publishedPlanPayloads lower plan, publish_ok lower plan verified, ?_⟩
    · rw [archiveAccepts, verified, idIs]
      exact decide_eq_true rfl
    · apply (load_published lower plan planNormal verified).mpr
      refine ⟨idIs, loadable, (own_items_valid lower plan).mp ?_⟩
      rw [same]
      exact targetsIs

end

/-- Settings that are kept: known keys with values of their types. -/
def Accepted (settings : Members F) : Prop :=
  ∀ setting ∈ settings, setting.1 ∈ providerKeys ∧ providerTypeValid setting.1 setting.2 = true

theorem check_provider_ok (setting : String × Json F) : checkProvider setting = .ok () ↔
      setting.1 ∈ providerKeys ∧ providerTypeValid setting.1 setting.2 = true := by
  rw [checkProvider]
  simp [bind_ok]

theorem provider_ok (settings result : Members F) : providerSettings settings = .ok result ↔
      Accepted settings ∧ result = normalizeMembers settings := by
  have checks : settings.forM checkProvider = .ok () ↔ Accepted settings := by
    induction settings with
    | nil => exact ⟨nofun, fun _ => rfl⟩
    | cons setting settings ih =>
      change (checkProvider setting >>= fun _ => settings.forM checkProvider) = .ok () ↔ _
      rw [bind_ok]
      constructor
      · intro ⟨_, own, rest⟩
        exact List.forall_mem_cons.mpr ⟨(check_provider_ok setting).mp own, ih.mp rest⟩
      · intro accepted
        obtain ⟨own, rest⟩ := List.forall_mem_cons.mp accepted
        exact ⟨(), (check_provider_ok setting).mpr own, ih.mpr rest⟩
  rw [providerSettings, bind_ok]
  constructor
  · intro ⟨_, run, same⟩
    cases same
    exact ⟨checks.mp run, rfl⟩
  · intro ⟨accepted, same⟩
    rw [same]
    exact ⟨(), checks.mpr accepted, rfl⟩

theorem setting_normal (key : String) (value : Json F)
    (valid : providerTypeValid key value = true) : Normal value := by
  cases value with
  | arr _ | obj _ =>
    simp [providerTypeValid] at valid
  | _ => exact ⟨trivial, rfl⟩

structure Kept (provider : Members F) : Prop where
  accepted : Accepted provider
  increasing : (provider.map Prod.fst).Pairwise (· < ·)

theorem kept_normal (provider : Members F) (kept : Kept provider) : Normal (.obj provider) := by
  apply normal_of_increasing provider kept.increasing
  intro setting inside
  exact setting_normal _ _ (kept.accepted setting inside).2

theorem kept_ok (provider : Members F) (kept : Kept provider) :
    (providerSettings provider).isOk = true := by
  rw [(provider_ok provider _).mpr ⟨kept.accepted, rfl⟩]
  rfl

theorem kept_settings (settings : Settings F) (accepted : Accepted settings.val) :
    Kept (normalizeMembers settings.val) := by
  constructor
  · intro setting inside
    obtain ⟨original, held, same⟩ :=
      List.mem_map.mp ((normalizeMembers_perm settings.val).mem_iff.mp inside)
    have own := accepted original held
    rw [← same, (setting_normal _ _ own.2).2]
    exact own
  · exact List.pairwise_map.mpr (normalizeMembers_sorted settings.val settings.property)

theorem kept_without_remote (provider : Members F) (kept : Kept provider) :
    Kept (withoutRemote provider) := by
  constructor
  · intro setting inside
    rcases List.mem_cons.mp ((insertMember_perm _ _ _).mem_iff.mp inside) with same | other
    · rw [same]
      exact ⟨List.mem_of_elem_eq_true rfl, rfl⟩
    · exact kept.accepted setting (List.mem_of_mem_filter other)
  · apply List.pairwise_map.mpr
    apply insertMember_sorted
    · exact (List.pairwise_map.mp kept.increasing).sublist List.filter_sublist
    · intro setting inside same
      have own := List.of_mem_filter inside
      simp [same] at own

structure Apart (seen : List Occupied) : Prop where
  indexes : (seen.map Occupied.index).Nodup
  targetIds : (seen.map Occupied.targetId).Nodup
  outputDirs : (seen.map Occupied.outputDir).Nodup

structure Occupies (targets : List BatchTargetPlan) (places : List Occupied) : Prop where
  indexes : places.map Occupied.index = targets.map fun target => target.identity.index
  targetIds : places.map Occupied.targetId = targets.map BatchTargetPlan.targetId
  outputDirs : (targets.map fun target => effectiveOutputKey target.outputPath) =
    (places.map Occupied.outputDir).map some

theorem nodup_snoc {α : Type} (items : List α) (item : α) (distinct : items.Nodup)
    (fresh : ∀ other ∈ items, other ≠ item) : (items ++ [item]).Nodup := by
  rw [List.nodup_append]
  refine ⟨distinct, List.nodup_singleton item, ?_⟩
  intro other inside same equal
  rw [List.mem_singleton.mp equal]
  exact fresh other inside

theorem occupy_ok (seen : List Occupied) (target : BatchTargetPlan) (result : List Occupied)
    (apart : Apart seen) (occupied : occupy seen target = .ok result) :
    ∃ place : Occupied, result = seen ++ [place] ∧ Apart result ∧ Occupies [target] [place] := by
  rw [occupy, bind_ok] at occupied
  obtain ⟨_, unused, occupied⟩ := occupied
  have fresh := List.all_eq_true.mp ((require_ok _ _ _).mp unused)
  split at occupied
  · cases occupied
  · rename_i effective effectiveIs
    obtain ⟨_, free, same⟩ := bind_ok.mp occupied
    have freeDirs := List.all_eq_true.mp ((require_ok _ _ _).mp free)
    cases same
    refine ⟨_, rfl, ⟨?_, ?_, ?_⟩, ⟨rfl, rfl, by simp [effectiveIs]⟩⟩
    · rw [List.map_append]
      apply nodup_snoc _ _ apart.indexes
      intro index inside
      obtain ⟨other, held, rfl⟩ := List.mem_map.mp inside
      simpa using (Bool.and_eq_true_iff.mp (fresh other held)).1
    · rw [List.map_append]
      apply nodup_snoc _ _ apart.targetIds
      intro targetId inside
      obtain ⟨other, held, rfl⟩ := List.mem_map.mp inside
      simpa using (Bool.and_eq_true_iff.mp (fresh other held)).2
    · rw [List.map_append]
      apply nodup_snoc _ _ apart.outputDirs
      intro outputDir inside
      obtain ⟨other, held, rfl⟩ := List.mem_map.mp inside
      simpa using freeDirs other held

theorem occupy_run (targets : List BatchTargetPlan) (seen result : List Occupied)
    (apart : Apart seen) (occupied : targets.foldlM occupy seen = .ok result) :
    ∃ places, result = seen ++ places ∧ Apart result ∧ Occupies targets places := by
  induction targets generalizing seen with
  | nil =>
    cases occupied
    exact ⟨[], by simp, apart, ⟨rfl, rfl, rfl⟩⟩
  | cons target targets ih =>
    rw [List.foldlM_cons, bind_ok] at occupied
    obtain ⟨middle, own, rest⟩ := occupied
    obtain ⟨place, rfl, middleApart, first⟩ := occupy_ok seen target middle apart own
    obtain ⟨places, rfl, resultApart, others⟩ := ih _ middleApart rest
    refine ⟨place :: places, by simp, resultApart, ⟨?_, ?_, ?_⟩⟩
    · simpa using ⟨by simpa using first.indexes, others.indexes⟩
    · simpa using ⟨by simpa using first.targetIds, others.targetIds⟩
    · simpa using ⟨by simpa using first.outputDirs, by simpa using others.outputDirs⟩

section

def plannedTarget (output : String) (target : CorpusTarget) : BatchTargetPlan where
  identity := target.identity
  outputPath := targetOutput lower output target.identity
  capability := target.capability
  initialState := .queued
  targetId := target.identity.identityId
  databaseFingerprint := target.databaseFingerprint

theorem plan_target_ok (output : String) (target : CorpusTarget) (planned : BatchTargetPlan)
    (ok : planTarget lower output target = .ok planned) :
    planned = plannedTarget lower output target ∧ isHex 64 target.databaseFingerprint = true := by
  obtain ⟨_, hex, ok⟩ := bind_ok.mp ok
  obtain ⟨_, _, same⟩ := bind_ok.mp ok
  cases same
  exact ⟨rfl, (require_ok _ _ _).mp hex⟩

theorem plan_targets_ok (output : String) (targets : List CorpusTarget)
    (planned : List BatchTargetPlan) (ok : targets.mapM (planTarget lower output) = .ok planned) :
    planned = targets.map (plannedTarget lower output) ∧
      ∀ target ∈ targets, isHex 64 target.databaseFingerprint = true := by
  have all := mapM_ok.mp ok
  induction all with
  | nil => exact ⟨rfl, List.forall_mem_nil _⟩
  | cons own _ ih =>
    rename_i target result targets results rest
    obtain ⟨same, hex⟩ := plan_target_ok lower output target result own
    obtain ⟨others, hexes⟩ := ih (mapM_ok.mpr rest)
    rw [same, others]
    exact ⟨rfl, List.forall_mem_cons.mpr ⟨hex, hexes⟩⟩

variable [FloatText F]

structure Built (corpus : CanonicalCorpus) (outputRoot toolVersion : String) (plan : BatchPlan F) :
    Prop where
  schemaVersion : plan.schemaVersion = .int 1
  toolVersion : plan.toolVersion = toolVersion
  batchSchemaVersion : plan.batchSchemaVersion = batchSchemaVersion
  policy : plan.analysisMode.isSome = plan.queryFailurePolicy.isSome
  runId : safeRunId plan.runId = true
  outputRoot : safeOutput outputRoot = some plan.outputRoot
  inventory : plan.inventoryDigest = corpus.inventoryDigest
  targets : plan.targets = corpus.targets.map (plannedTarget lower plan.outputRoot)
  fingerprints : ∀ target ∈ corpus.targets, isHex 64 target.databaseFingerprint = true
  places : ∃ places, Apart places ∧ Occupies plan.targets places
  provider : Kept plan.provider
  digest : digestOf (plan.unsignedDict lower) = some plan.planDigest
  planId : plan.planId = planIdOf plan.planDigest

theorem build_ok (corpus : CanonicalCorpus) (runId mode outputRoot toolVersion : String)
    (settings : Settings F) (plan : BatchPlan F)
    (ok : buildBatchPlan lower corpus runId mode outputRoot toolVersion settings = .ok plan) :
    Built lower corpus outputRoot toolVersion plan := by
  rw [buildBatchPlan] at ok
  split at ok
  · cases ok
  · rename_i batchMode _
    obtain ⟨_, safe, ok⟩ := bind_ok.mp ok
    split at ok
    · cases ok
    · rename_i output outputIs
      obtain ⟨targets, planned, ok⟩ := bind_ok.mp ok
      obtain ⟨final, occupied, ok⟩ := bind_ok.mp ok
      obtain ⟨accepted, kept, ok⟩ := bind_ok.mp ok
      obtain ⟨targetsAre, fingerprints⟩ :=
        plan_targets_ok lower output corpus.targets targets planned
      obtain ⟨places, same, apart, occupies⟩ :=
        occupy_run targets [] final ⟨List.nodup_nil, List.nodup_nil, List.nodup_nil⟩ occupied
      obtain ⟨valid, rfl⟩ := (provider_ok settings.val accepted).mp kept
      have own : Kept (if batchMode = .entries then withoutRemote (normalizeMembers settings.val)
          else normalizeMembers settings.val) := by
        split
        · exact kept_without_remote _ (kept_settings settings valid)
        · exact kept_settings settings valid
      simp only at ok
      generalize (if batchMode = .entries then withoutRemote (normalizeMembers settings.val)
        else normalizeMembers settings.val) = provider at ok own
      generalize (if batchMode = .entries then AnalysisMode.exploratoryEntries else .formal) =
        analysisMode at ok
      generalize (if batchMode = .entries then QueryFailurePolicy.coverageGap else .failClosed) =
        policy at ok
      split at ok
      · cases ok
      · rename_i digest digestIs
        cases ok
        refine ⟨rfl, rfl, rfl, rfl, (require_ok _ _ _).mp safe, outputIs, rfl, targetsAre,
          fingerprints, ⟨places, ?_, occupies⟩, own, digestIs, rfl⟩
        rw [same] at apart
        exact apart

/-- A corpus, an output root and a tool version that the loader takes the plans of. -/
structure CorpusLoadable (corpus : CanonicalCorpus) (outputRoot toolVersion : String) : Prop where
  toolVersion : toolVersion ≠ ""
  inventory : isHex 64 corpus.inventoryDigest = true
  identities : ∀ target ∈ corpus.targets, IdentityLoadable target.identity
  capabilities : ∀ target ∈ corpus.targets, CapabilityLoadable target.capability
  outputs : ∀ output, safeOutput outputRoot = some output → ∀ target ∈ corpus.targets,
    safeOutput (targetOutput lower output target.identity) =
      some (targetOutput lower output target.identity)

theorem digest_shape (value : Json F) (digest : String) (found : digestOf value = some digest) :
    isHex 64 digest = true ∧ Text.startsWith (planIdOf digest) "plan:" = true ∧
      isHex 24 (Text.removeLead (planIdOf digest) "plan:") = true := by
  have own := ((digest_of value digest).mp found).2
  have digits (c : Char) (inside : c ∈ digest.toList) : c ∈ "0123456789abcdef".toList := by
    rw [← own] at inside
    exact Sha256.hexdigest_digits _ c inside
  have length : digest.length = 64 := by
    rw [← own]
    exact Sha256.hexdigest_length _
  have listed : digest.toList.length = 64 := by rw [String.length_toList, length]
  have removed : Text.removeLead (planIdOf digest) "plan:" =
      String.ofList (digest.toList.take 24) := Text.removeLead_append _ _
  refine ⟨?_, Text.startsWith_append _ _, ?_⟩
  · rw [isHex, Bool.and_eq_true, List.all_eq_true]
    exact ⟨decide_eq_true length, fun c inside => decide_eq_true (digits c inside)⟩
  · rw [removed, isHex, Bool.and_eq_true, List.all_eq_true, String.toList_ofList,
      String.length_ofList, List.length_take, listed]
    exact ⟨rfl, fun c inside => decide_eq_true (digits c (List.mem_of_mem_take inside))⟩

section

variable (corpus : CanonicalCorpus) (outputRoot toolVersion : String) (plan : BatchPlan F)
  (built : Built lower corpus outputRoot toolVersion plan)

include built

theorem built_loadable : (PlanLoadable lower plan ∧ ∀ target ∈ plan.targets,
      TargetLoadable target ∧ safeOutput target.outputPath = some target.outputPath) ↔
        CorpusLoadable lower corpus outputRoot toolVersion := by
  have shape := digest_shape _ _ built.digest
  obtain ⟨places, apart, occupies⟩ := built.places
  constructor
  · intro ⟨loadable, targets⟩
    have each (target : CorpusTarget) (inside : target ∈ corpus.targets) :=
      targets (plannedTarget lower plan.outputRoot target)
        (by rw [built.targets]; exact List.mem_map_of_mem inside)
    refine ⟨?_, ?_, ?_, ?_, ?_⟩
    · rw [← built.toolVersion]
      exact loadable.toolVersion
    · rw [← built.inventory]
      exact loadable.inventory
    · exact fun target inside => (each target inside).1.identity
    · exact fun target inside => (each target inside).1.capability
    · intro output outputIs target inside
      rw [built.outputRoot] at outputIs
      cases outputIs
      exact (each target inside).2
  · intro corpusLoadable
    constructor
    · exact {
        schemaVersion := by rw [built.schemaVersion]; rfl
        toolVersion := by rw [built.toolVersion]; exact corpusLoadable.toolVersion
        digest := shape.1
        planId := by rw [built.planId]; exact shape.2
        batchSchemaVersion := by rw [built.batchSchemaVersion]; decide
        policy := built.policy
        runId := built.runId
        outputRoot := safe_output_fixed _ _ built.outputRoot
        inventory := by rw [built.inventory]; exact corpusLoadable.inventory
        provider := kept_ok _ built.provider
        outputs := ⟨_, (Owners.reads_mapM _ _ _).mpr occupies.outputDirs, apart.outputDirs⟩
        expected := by
          intro target inside
          rw [built.targets] at inside
          obtain ⟨own, _, rfl⟩ := List.mem_map.mp inside
          rfl
        indexes := by rw [← occupies.indexes]; exact apart.indexes
        targetIds := by rw [← occupies.targetIds]; exact apart.targetIds }
    · intro target inside
      rw [built.targets] at inside
      obtain ⟨own, held, rfl⟩ := List.mem_map.mp inside
      refine ⟨⟨corpusLoadable.identities own held, corpusLoadable.capabilities own held, ?_,
        Or.inr (built.fingerprints own held), rfl⟩, ?_⟩
      · exact .head _
      · exact corpusLoadable.outputs _ built.outputRoot own held

variable [LawfulFloatText F]

theorem built_plan_loads_iff :
    publishBatchPlan lower plan = .ok (publishedPlanPayloads lower plan) ∧
      (loadBatchPlan lower (publishedPlanPayloads lower plan).1 = .ok plan ↔
        CorpusLoadable lower corpus outputRoot toolVersion) := by
  have verified : plan.verifyDigest lower = true := decide_eq_true built.digest
  have normal : PlanNormal plan := by
    refine ⟨?_, kept_normal _ built.provider⟩
    rw [built.schemaVersion]
    exact ⟨trivial, rfl⟩
  refine ⟨publish_ok lower plan verified, ?_⟩
  rw [load_published lower plan normal verified,
    ← built_loadable lower corpus outputRoot toolVersion plan built]
  exact and_iff_right built.planId

end

end

variable [FloatText F] [LawfulFloatText F]

/-- A built plan loads as itself exactly where its corpus meets the loader's demands; a loaded
plan stands exactly where its file spells every target as the plan does. -/
theorem plans_stand_iff : (∀ (corpus : CanonicalCorpus) (runId mode outputRoot toolVersion : String)
      (settings : Settings F) (plan : BatchPlan F),
      buildBatchPlan lower corpus runId mode outputRoot toolVersion settings = .ok plan →
        ∃ files, publishBatchPlan lower plan = .ok files ∧ (loadBatchPlan lower files.1 = .ok plan ↔
            CorpusLoadable lower corpus outputRoot toolVersion)) ∧
    ∀ (content : List UInt8) (plan : BatchPlan F), loadBatchPlan lower content = .ok plan →
      CollisionFree (canonicalJson (plan.unsignedDict lower))
        (canonicalJson (fileUnsigned (F := F) content)) →
      (Stands lower plan ↔ ∀ item ∈ fileTargets (F := F) content, ItemAsWritten item) := by
  constructor
  · intro corpus runId mode outputRoot toolVersion settings plan ok
    have built := build_ok lower corpus runId mode outputRoot toolVersion settings plan ok
    obtain ⟨published, loads⟩ := built_plan_loads_iff lower corpus outputRoot toolVersion plan built
    exact ⟨_, published, loads⟩
  · exact loaded_plan_stands_iff lower

def zeros (count : Nat) : String := String.ofList (List.replicate count '0')

def sampleIdentity : TargetIdentity := ⟨1, "o/r", .gitCommit, zeros 40, "s", "d"⟩

def sampleCapability : TargetCapability := ⟨false, none, .unavailable, none, none, none⟩

def sampleCorpus : CanonicalCorpus := ⟨zeros 64, [⟨sampleIdentity, sampleCapability, zeros 64⟩]⟩

def sampleTarget (fingerprint : String) : BatchTargetPlan where
  identity := sampleIdentity
  outputPath := "out/targets/001-o__r"
  capability := sampleCapability
  initialState := .queued
  targetId := sampleIdentity.identityId
  databaseFingerprint := fingerprint

def unsignedSample (fingerprint : String) : BatchPlan Empty where
  schemaVersion := .int 1
  toolVersion := "t"
  batchSchemaVersion := batchSchemaVersion
  runId := "run"
  mode := .plan
  outputRoot := "out"
  inventoryDigest := zeros 64
  targets := [sampleTarget fingerprint]
  planId := ""
  planDigest := ""
  provider := []
  analysisMode := some .formal
  queryFailurePolicy := some .failClosed

/-- The one target of a file, with its database fingerprint spelled out. -/
def sampleItem (fingerprint : String) : PlainJson :=
  .obj (targetWith Text.lowerAscii (sampleTarget fingerprint) [] "out/targets/001-o__r"
    [("database_fingerprint", .str fingerprint)])

@[irreducible] def sampleDigest (fingerprint : String) : String :=
  sha256CanonicalJson (.obj (unsignedWith (unsignedSample fingerprint) [sampleItem fingerprint]))

def samplePlan (fingerprint : String) : BatchPlan Empty :=
  { unsignedSample fingerprint with
    planId := planIdOf (sampleDigest fingerprint)
    planDigest := sampleDigest fingerprint }

def sampleFile (fingerprint : String) : List UInt8 :=
  canonicalJson (.obj (rawWith (samplePlan fingerprint) [sampleItem fingerprint])) ++ [10]

variable (fingerprint : String)

theorem sample_item_normal : Normal (sampleItem fingerprint) := by
  have identity : Normal (.obj (identityMembers Text.lowerAscii sampleIdentity) : PlainJson) := by
    apply normal_of_increasing
    · change List.Pairwise (· < ·) identityFields
      decide
    · intro member inside
      simp only [identityMembers, List.mem_cons, List.not_mem_nil, or_false] at inside
      rcases inside with rfl | rfl | rfl | rfl | rfl | rfl | rfl | rfl <;> exact ⟨trivial, rfl⟩
  have capability : Normal (.obj (capabilityWith sampleCapability []) : PlainJson) := by
    apply normal_of_increasing
    · decide
    · intro member inside
      simp only [capabilityWith, sampleCapability, optionalText, List.cons_append, List.nil_append,
        List.append_nil, List.mem_cons, List.not_mem_nil, or_false] at inside
      rcases inside with rfl | rfl | rfl | rfl <;> exact ⟨trivial, rfl⟩
  apply normal_of_increasing
  · change List.Pairwise (· < ·) targetFields
    decide
  · intro member inside
    simp only [targetWith, List.cons_append, List.nil_append, List.mem_cons, List.not_mem_nil,
      or_false] at inside
    rcases inside with rfl | rfl | rfl | rfl | rfl | rfl
    · exact capability
    · exact ⟨trivial, rfl⟩
    · exact identity
    · exact ⟨trivial, rfl⟩
    · exact ⟨trivial, rfl⟩
    · exact ⟨trivial, rfl⟩

theorem sample_raw_normal :
    Normal (.obj (rawWith (samplePlan fingerprint) [sampleItem fingerprint])) := by
  have item := sample_item_normal fingerprint
  have items : Normal (.arr [sampleItem fingerprint]) := by
    refine ⟨⟨item.1, trivial⟩, ?_⟩
    simp [JsonValue.normalize, normalizeItems, item.2]
  apply normal_of_increasing
  · change List.Pairwise (· < ·) required
    decide
  · intro member inside
    simp only [rawWith, analysisMembers, policyMembers, samplePlan, unsignedSample, Option.elim,
      List.cons_append, List.nil_append, List.mem_cons, List.not_mem_nil, or_false] at inside
    rcases inside with
      rfl | rfl | rfl | rfl | rfl | rfl | rfl | rfl | rfl | rfl | rfl | rfl | rfl <;>
      first
        | exact ⟨trivial, rfl⟩
        | exact items
        | exact ⟨⟨List.nodup_nil, trivial⟩, rfl⟩

theorem sample_raw_printable : printable maxIntegerDigits
      (.obj (rawWith (samplePlan fingerprint) [sampleItem fingerprint])) = true := by
  simp +decide [rawWith, analysisMembers, policyMembers, samplePlan, unsignedSample, sampleItem,
    targetWith, identityMembers, capabilityWith, sampleCapability, optionalText, printable,
    printableMembers, printableItems, sampleTarget, sampleIdentity, maxIntegerDigits]

theorem sample_unsigned_printable : printable maxIntegerDigits
      (.obj (unsignedWith (samplePlan fingerprint) [sampleItem fingerprint])) = true := by
  rw [← unsigned_raw]
  apply (JsonRoundTrip.printableMembers_iff _ _).mpr
  intro member inside
  exact (JsonRoundTrip.printableMembers_iff _ _).mp (sample_raw_printable fingerprint) member
    (List.mem_of_mem_filter inside)

theorem sample_identity_loadable : IdentityLoadable sampleIdentity :=
  ⟨by decide, by decide, by decide, by decide, by decide⟩

theorem sample_capability_loadable : CapabilityLoadable sampleCapability :=
  ⟨by decide, by decide, by decide⟩

theorem sample_target_valid (hex : fingerprint = "" ∨ isHex 64 fingerprint = true) :
    validatedTarget Text.lowerAscii (sampleItem fingerprint) = some (sampleTarget fingerprint) := by
  have safe : safeOutput "out/targets/001-o__r" = some "out/targets/001-o__r" := by decide
  apply (validated_target Text.lowerAscii _ (sample_item_normal fingerprint) _).mpr
  refine ⟨[], "out/targets/001-o__r", _, rfl, ⟨Or.inl rfl, safe, ?_⟩,
    ⟨sample_identity_loadable, sample_capability_loadable, .head _, hex, rfl⟩⟩
  by_cases empty : fingerprint = ""
  · rw [empty]
    exact Or.inr ⟨rfl, rfl⟩
  · exact Or.inl (if_neg empty).symm

theorem sample_read : readPlan (sampleFile fingerprint) =
      some (.obj (rawWith (samplePlan fingerprint) [sampleItem fingerprint])) := by
  have normal := sample_raw_normal fingerprint
  rw [sampleFile, read_published _ (sample_raw_printable fingerprint) normal.1, normal.2]

theorem sample_loads (hex : fingerprint = "" ∨ isHex 64 fingerprint = true) :
    loadBatchPlan Text.lowerAscii (sampleFile fingerprint) = .ok (samplePlan fingerprint) := by
  have digestIs : digestOf (.obj (unsignedWith (samplePlan fingerprint) [sampleItem fingerprint])) =
      some (samplePlan fingerprint).planDigest := by
    apply (digest_of _ _).mpr
    refine ⟨sample_unsigned_printable fingerprint, ?_⟩
    simp only [samplePlan, sampleDigest]
    rfl
  have shape := digest_shape _ _ digestIs
  have run : safeRunId "run" = true := by decide
  have root : safeOutput "out" = some "out" := by decide
  have inventory : isHex 64 (zeros 64) = true := by decide
  have outputs : [effectiveOutputKey "out/targets/001-o__r"] = [some "001-o__r".toList] := by decide
  have expected : "out/targets/001-o__r" =
      targetOutput Text.lowerAscii "out" sampleIdentity := by decide
  rw [load_ok]
  refine ⟨[sampleItem fingerprint], sample_read fingerprint, digestIs, rfl, ?_, ?_⟩
  · rw [Owners.reads_mapM, List.map_singleton, sample_target_valid fingerprint hex]
    rfl
  · exact {
      schemaVersion := rfl
      toolVersion := show "t" ≠ "" by decide
      digest := shape.1
      planId := shape.2
      batchSchemaVersion := .tail _ (.head _)
      policy := rfl
      runId := run
      outputRoot := root
      inventory := inventory
      provider := rfl
      outputs := ⟨["001-o__r".toList], (Owners.reads_mapM _ _ _).mpr outputs,
        List.nodup_singleton _⟩
      expected := by
        intro target inside
        rw [List.mem_singleton.mp inside]
        exact expected
      indexes := List.nodup_singleton _
      targetIds := List.nodup_singleton _ }

theorem sample_own_items :
    ownItems Text.lowerAscii (samplePlan (zeros 64)) = [sampleItem (zeros 64)] := by
  have given : zeros 64 ≠ "" := by decide
  change [JsonValue.normalize
    (BatchTargetPlan.toDict Text.lowerAscii (sampleTarget (zeros 64)))] = _
  rw [target_normal, sampleItem]
  simp only [fingerprintMembers, sampleTarget, given, if_false]
  rfl

/-- A plan is built, published and loaded, and the plan of a file stands. -/
theorem sample_plans_stand : (∃ plan : BatchPlan Empty,
      buildBatchPlan Text.lowerAscii sampleCorpus "run" "plan" "out" "t" ⟨[], List.nodup_nil⟩ =
        .ok plan ∧ ∃ files, publishBatchPlan Text.lowerAscii plan = .ok files ∧
          loadBatchPlan Text.lowerAscii files.1 = .ok plan) ∧
    Stands Text.lowerAscii (samplePlan (zeros 64)) := by
  have whole := plans_stand_iff (F := Empty) Text.lowerAscii
  constructor
  · have succeeds : (buildBatchPlan (F := Empty) Text.lowerAscii sampleCorpus "run" "plan" "out" "t"
        ⟨[], List.nodup_nil⟩).isOk = true := by decide
    cases ok : buildBatchPlan (F := Empty) Text.lowerAscii sampleCorpus "run" "plan" "out" "t"
        ⟨[], List.nodup_nil⟩ with
    | error raised =>
      rw [ok] at succeeds
      cases succeeds
    | ok plan =>
      obtain ⟨files, published, loads⟩ := whole.1 _ _ _ _ _ _ plan ok
      refine ⟨plan, rfl, files, published, loads.mpr ?_⟩
      refine ⟨by decide, by decide, ?_, ?_, ?_⟩
      · intro target inside
        rw [List.mem_singleton.mp inside]
        exact sample_identity_loadable
      · intro target inside
        rw [List.mem_singleton.mp inside]
        exact sample_capability_loadable
      · intro output safe target inside
        have same : output = "out" := Option.some.inj (safe.symm.trans (by decide))
        rw [List.mem_singleton.mp inside, same]
        decide
  · have hex : isHex 64 (zeros 64) = true := by decide
    have loaded := sample_loads (zeros 64) (Or.inr hex)
    obtain ⟨unsignedIs, targetsAre⟩ := file_parts _ _ _ (sample_read (zeros 64))
    have normal := sample_raw_normal (zeros 64)
    have item := sample_item_normal (zeros 64)
    have planNormal : PlanNormal (samplePlan (zeros 64)) :=
      ⟨⟨trivial, rfl⟩, ⟨⟨List.nodup_nil, trivial⟩, rfl⟩⟩
    have unsigned := unsigned_normal Text.lowerAscii (samplePlan (zeros 64)) planNormal
    rw [sample_own_items, ← unsignedIs] at unsigned
    have fileNormal : Normal (fileUnsigned (F := Empty) (sampleFile (zeros 64))) := by
      rw [unsignedIs, ← unsigned_raw]
      exact normal_filter _ normal _
    have same : canonicalJson ((samplePlan (zeros 64)).unsignedDict Text.lowerAscii) =
        canonicalJson (fileUnsigned (F := Empty) (sampleFile (zeros 64))) := by
      rw [canonicalJson, unsigned, canonicalJson, fileNormal.2]
    apply (whole.2 _ _ loaded fun _ => same).mpr
    rw [targetsAre]
    intro one inside
    rw [List.mem_singleton.mp inside]
    apply (item_as_written_iff Text.lowerAscii _ item _ (sample_target_valid _ (Or.inr hex))).mpr
    exact List.head_eq_of_cons_eq sample_own_items

set_option maxRecDepth 10000 in
theorem sample_digests_differ :
    sha256CanonicalJson ((unsignedSample "").unsignedDict Text.lowerAscii) ≠
      sha256CanonicalJson (.obj (unsignedWith (unsignedSample "") [sampleItem ""])) := by
  rw [digest_codes, digest_codes]
  decide

/-- A file that spells out a missing database fingerprint is accepted; its plan does not verify. -/
theorem empty_fingerprint_unverified :
    loadBatchPlan Text.lowerAscii (sampleFile "") = .ok (samplePlan "") ∧
      (samplePlan "").verifyDigest Text.lowerAscii = false ∧
      publishBatchPlan Text.lowerAscii (samplePlan "") =
        .error (invalidPlan "PLAN_DIGEST_MISMATCH") := by
  have unverified : (samplePlan "").verifyDigest Text.lowerAscii = false := by
    apply decide_eq_false
    intro same
    apply sample_digests_differ
    have digest := ((digest_of _ _).mp same).2
    simp only [samplePlan, sampleDigest] at digest
    exact digest
  refine ⟨sample_loads "" (Or.inl rfl), unverified, ?_⟩
  rw [publishBatchPlan, unverified]
  rfl

end DosWeb.Batch.Plan
