import DosWeb.Batch.State
import DosWeb.Entries.Canonical
import DosWeb.Library.Bytes
import DosWeb.Library.JsonLoads
import DosWeb.Library.JsonRecord

/-!
The plan of a batch: how it is built from a corpus, published as canonical JSON and loaded again.
Dictionaries are held with their members in key order.
-/

namespace DosWeb.Batch.Plan

open Library Library.JsonValue Library.JsonText Library.JsonRecord Identifiers

inductive FingerprintType where
  | gitCommit
  | treeSha256
  deriving DecidableEq

def FingerprintType.text : FingerprintType → String
  | .gitCommit => "git-commit"
  | .treeSha256 => "tree-sha256"

def fingerprintTypes : List FingerprintType := [.gitCommit, .treeSha256]

inductive Attestation where
  | gitCommit
  | treeSha256
  | unavailable
  deriving DecidableEq

def Attestation.text : Attestation → String
  | .gitCommit => "git-commit"
  | .treeSha256 => "tree-sha256"
  | .unavailable => "unavailable"

def attestations : List Attestation := [.gitCommit, .treeSha256, .unavailable]

inductive BatchMode where
  | plan
  | entries
  | full
  deriving DecidableEq

def BatchMode.text : BatchMode → String
  | .plan => "plan"
  | .entries => "entries"
  | .full => "full"

def batchModes : List BatchMode := [.plan, .entries, .full]

inductive AnalysisMode where
  | formal
  | exploratoryEntries
  deriving DecidableEq

def AnalysisMode.text : AnalysisMode → String
  | .formal => "formal"
  | .exploratoryEntries => "exploratory_entries"

def analysisModes : List AnalysisMode := [.formal, .exploratoryEntries]

inductive QueryFailurePolicy where
  | failClosed
  | coverageGap
  deriving DecidableEq

def QueryFailurePolicy.text : QueryFailurePolicy → String
  | .failClosed => "fail_closed"
  | .coverageGap => "coverage_gap"

def queryFailurePolicies : List QueryFailurePolicy := [.failClosed, .coverageGap]

def stateText : TargetState → String
  | .queued => "queued"
  | .running => "running"
  | .retrying => "retrying"
  | .paused => "paused"
  | .completed => "completed"
  | .completedWithGaps => "completed_with_gaps"
  | .failed => "failed"
  | .interrupted => "interrupted"

def targetStates : List TargetState := [.queued, .paused]

/-- Stable identity of one corpus target, independent of output location. -/
structure TargetIdentity where
  index : Int
  name : String
  fingerprintType : FingerprintType
  fingerprint : String
  sourcePath : String
  databasePath : String
  deriving DecidableEq

structure TargetCapability where
  providerEligible : Bool
  publicSourceUrl : Option String
  attestation : Attestation
  reason : Option String
  providerSourcePath : Option String
  providerSourceCommit : Option String
  deriving DecidableEq

structure CorpusTarget where
  identity : TargetIdentity
  capability : TargetCapability
  databaseFingerprint : String
  deriving DecidableEq

structure CanonicalCorpus where
  inventoryDigest : String
  targets : List CorpusTarget
  deriving DecidableEq

structure BatchTargetPlan where
  identity : TargetIdentity
  outputPath : String
  capability : TargetCapability
  initialState : TargetState
  targetId : String
  databaseFingerprint : String
  deriving DecidableEq

/-- A plan; a legacy one has no analysis mode and no policy. -/
structure BatchPlan (F : Type) where
  schemaVersion : Json F
  toolVersion : String
  batchSchemaVersion : String
  runId : String
  mode : BatchMode
  outputRoot : String
  inventoryDigest : String
  targets : List BatchTargetPlan
  planId : String
  planDigest : String
  provider : Members F
  analysisMode : Option AnalysisMode
  queryFailurePolicy : Option QueryFailurePolicy

section

variable {F : Type} (lower : String → String)

def optionalText : Option String → Json F
  | some text => .str text
  | none => .null

def TargetIdentity.semanticIdentity (identity : TargetIdentity) : Members F := [
  ("index", .int identity.index), ("name", .str identity.name),
  ("fingerprint_type", .str identity.fingerprintType.text),
  ("fingerprint", .str identity.fingerprint), ("source_path", .str identity.sourcePath),
  ("database_path", .str identity.databasePath)]

def TargetIdentity.identityId (identity : TargetIdentity) : String :=
  stableIdentifier "target" identity.semanticIdentity

/-- Owner and repository in lower case; `lower` is Python's `str.lower`. -/
def TargetIdentity.slug (identity : TargetIdentity) : String :=
  match Text.partition '/' identity.name.toList with
  | some (owner, repository) =>
    lower (String.ofList owner) ++ "__" ++ lower (String.ofList repository)
  | none => ""

def TargetIdentity.toDict (identity : TargetIdentity) : Json F :=
  .obj ([("target_id", .str identity.identityId)] ++ identity.semanticIdentity ++
    [("slug", .str (identity.slug lower))])

def TargetCapability.toDict (capability : TargetCapability) : Json F := .obj ([
    ("provider_eligible", .bool capability.providerEligible),
    ("public_source_url", optionalText capability.publicSourceUrl),
    ("attestation", .str capability.attestation.text),
    ("reason", optionalText capability.reason)] ++
    (capability.providerSourcePath.elim [] fun path => [("provider_source_path", .str path)]) ++
    capability.providerSourceCommit.elim [] fun commit => [("provider_source_commit", .str commit)])

def BatchTargetPlan.toDict (target : BatchTargetPlan) : Json F := .obj ([
    ("target_id", .str target.targetId), ("identity", target.identity.toDict lower),
    ("output_path", .str target.outputPath), ("capability", target.capability.toDict),
    ("initial_state", .str (stateText target.initialState))] ++
    if target.databaseFingerprint = "" then []
    else [("database_fingerprint", .str target.databaseFingerprint)])

def BatchPlan.unsignedDict (plan : BatchPlan F) : Json F := .obj ([
    ("schema_version", plan.schemaVersion), ("tool_version", .str plan.toolVersion),
    ("batch_schema_version", .str plan.batchSchemaVersion), ("run_id", .str plan.runId),
    ("mode", .str plan.mode.text), ("output_root", .str plan.outputRoot),
    ("inventory_digest", .str plan.inventoryDigest), ("provider", .obj plan.provider),
    ("targets", .arr (plan.targets.map (BatchTargetPlan.toDict lower)))] ++
    match plan.analysisMode with
    | none => []
    | some analysisMode => [("analysis_mode", .str analysisMode.text),
        ("query_failure_policy", .str (plan.queryFailurePolicy.elim "" QueryFailurePolicy.text))])

def membersOf : Json F → Members F
  | .obj members => members
  | _ => []

def BatchPlan.toDict (plan : BatchPlan F) : Json F := .obj (membersOf (plan.unsignedDict lower) ++
    [("plan_id", .str plan.planId), ("plan_digest", .str plan.planDigest)])

variable [FloatText F]

def BatchPlan.verifyDigest (plan : BatchPlan F) : Bool :=
  digestOf (plan.unsignedDict lower) = some plan.planDigest

end

section

def invalidPlan (reason : String) (details : Members Empty := []) : Raised :=
  .analyzer ⟨"BATCH_PLAN_INVALID", "Batch plan validation failed.",
    ("reason", .str reason) :: details⟩

/-- A relative path that does not climb, as `as_posix` gives it. -/
def safeOutput (value : String) : Option String :=
  (Entries.normalPath value.toList).map String.ofList

/-- A relative path that does not climb and stands as `as_posix` gives it. -/
def canonicalPath (value : String) : Bool :=
  let slashed := Entries.slashed value.toList
  let parts := Entries.pathParts slashed
  !(slashed.head? = some '/') && ['.', '.'] ∉ parts &&
    (if parts = [] then ['.'] else ['/'].intercalate parts) = value.toList

def isHex (length : Nat) (text : String) : Bool :=
  text.length = length && text.toList.all fun c => c ∈ "0123456789abcdef".toList

def planIdOf (digest : String) : String := "plan:" ++ String.ofList (digest.toList.take 24)

def hasDoubleDot : List Char → Bool
  | '.' :: '.' :: _ => true
  | _ :: rest => hasDoubleDot rest
  | [] => false

def safeRunId (runId : String) : Bool :=
  runId ≠ "" && '/' ∉ runId.toList && '\\' ∉ runId.toList && !hasDoubleDot runId.toList

/-- The width of an index in the name of an output directory is at least three. -/
def threeDigits (index : Int) : List Char :=
  let digits := Nat.toDigits 10 index.natAbs
  let sign := if index < 0 then ['-'] else []
  sign ++ List.replicate (3 - sign.length - digits.length) '0' ++ digits

def targetOutput (lower : String → String) (output : String) (identity : TargetIdentity) : String :=
  output ++ "/targets/" ++ String.ofList (threeDigits identity.index) ++ "-" ++ identity.slug lower

/-- The only component after the first one named `targets`; without such a one, the last. -/
def effectiveOutputKey (value : String) : Option (List Char) :=
  let parts := Entries.pathParts value.toList
  let suffix := match parts.dropWhile (· ≠ "targets".toList) with
    | _ :: rest => rest
    | [] => parts.drop (parts.length - 1)
  match suffix with
  | [key] => some key
  | _ => none

variable {F : Type}

def providerKeys : List String := [
  "model", "base_url", "temperature", "timeout_seconds", "max_retries", "allow_remote_llm",
  "pilot_skipped", "cache_dir", "config", "codeql_binary"]

def providerTypeValid (key : String) (value : Json F) : Bool :=
  if key ∈ ["allow_remote_llm", "pilot_skipped"] then
    match value with
    | .bool _ => true
    | _ => false
  else if key ∈ ["timeout_seconds", "max_retries"] then
    match value with
    | .int number => 0 ≤ number
    | _ => false
  else if key = "temperature" then
    match value with
    | .int _ => true
    | .float _ => true
    | _ => false
  else
    match value with
    | .null => true
    | .str _ => true
    | _ => false

def checkProvider (setting : String × Json F) : Checked Unit := do
  require (setting.1 ∈ providerKeys)
    (invalidPlan "PROVIDER_KEY_INVALID" [("key", .str (String.ofList (setting.1.toList.take 256)))])
  require (providerTypeValid setting.1 setting.2)
    (invalidPlan "PROVIDER_TYPE_INVALID" [("key", .str setting.1)])

/-- Keep only explicitly non-secret provider settings, with strict types. -/
def providerSettings (settings : Members F) : Checked (Members F) := do
  settings.forM checkProvider
  return normalizeMembers settings

variable [FloatText F] (lower : String → String)

def batchSchemaVersion : String := "java-web-dos-batch-v2"

def planTarget (output : String) (target : CorpusTarget) : Checked BatchTargetPlan := do
  require (isHex 64 target.databaseFingerprint)
    (invalidPlan "DATABASE_FINGERPRINT_INVALID" [("target_id", .str target.identity.identityId)])
  require ('/' ∈ target.identity.name.toList)
    (.valueError "not enough values to unpack (expected 2, got 1)")
  return {
    identity := target.identity
    outputPath := targetOutput lower output target.identity
    capability := target.capability
    initialState := .queued
    targetId := target.identity.identityId
    databaseFingerprint := target.databaseFingerprint }

structure Occupied where
  index : Int
  targetId : String
  outputDir : List Char

def occupy (seen : List Occupied) (target : BatchTargetPlan) : Checked (List Occupied) := do
  require (seen.all fun other =>
      other.index ≠ target.identity.index && other.targetId ≠ target.targetId)
    (invalidPlan "DUPLICATE_TARGET_ID_OR_INDEX" [("target_id", .str target.targetId)])
  match effectiveOutputKey target.outputPath with
  | none => .error (invalidPlan "OUTPUT_PATH_INVALID")
  | some effective => do
      require (seen.all fun other => other.outputDir ≠ effective)
        (invalidPlan "DUPLICATE_EFFECTIVE_OUTPUT_DIR"
          [("output_path", .str (String.ofList (effective.take 256)))])
      return seen ++ [⟨target.identity.index, target.targetId, effective⟩]

abbrev Settings (F : Type) := { settings : Members F // (settings.map Prod.fst).Nodup }

def withoutRemote (provider : Members F) : Members F :=
  insertMember "allow_remote_llm" (.bool false)
    (provider.filter fun setting => setting.1 ≠ "allow_remote_llm")

/-- Create a digest-bound plan without running CodeQL, a provider, or the network. -/
def buildBatchPlan (corpus : CanonicalCorpus) (runId mode outputRoot toolVersion : String)
    (settings : Settings F) : Checked (BatchPlan F) := do
  match batchModes.find? fun known => known.text = mode with
  | none => .error (invalidPlan "MODE_INVALID")
  | some mode =>
    require (safeRunId runId) (invalidPlan "RUN_ID_INVALID")
    match safeOutput outputRoot with
    | none => .error (invalidPlan "UNSAFE_OUTPUT_PATH")
    | some output =>
      let targets ← corpus.targets.mapM (planTarget lower output)
      let _ ← targets.foldlM occupy []
      let accepted ← providerSettings settings.val
      let unsigned : BatchPlan F := {
        schemaVersion := .int 1
        toolVersion
        batchSchemaVersion
        runId
        mode
        outputRoot := output
        inventoryDigest := corpus.inventoryDigest
        targets
        planId := ""
        planDigest := ""
        provider := if mode = .entries then withoutRemote accepted else accepted
        analysisMode := some (if mode = .entries then .exploratoryEntries else .formal)
        queryFailurePolicy := some (if mode = .entries then .coverageGap else .failClosed) }
      match digestOf (unsigned.unsignedDict lower) with
      | none => .error (.valueError "Out of range float values are not JSON compliant")
      | some digest => return { unsigned with planId := planIdOf digest, planDigest := digest }

end

section

variable {F : Type} [FloatText F] (lower : String → String)

/-- The bytes of `batch_plan.json` and of `manifest.normalized.jsonl`. -/
def publishedPlanPayloads (plan : BatchPlan F) : List UInt8 × List UInt8 :=
  (canonicalJson (plan.toDict lower) ++ [10],
    plan.targets.flatMap fun target => canonicalJson (target.toDict lower : Json F) ++ [10])

def publishBatchPlan (plan : BatchPlan F) : Checked (List UInt8 × List UInt8) := do
  require (plan.verifyDigest lower) (invalidPlan "PLAN_DIGEST_MISMATCH")
  return publishedPlanPayloads lower plan

/-- The check that an archive and a runner make of a plan before they use it. -/
def archiveAccepts (plan : BatchPlan F) : Bool :=
  plan.verifyDigest lower && plan.planId = planIdOf plan.planDigest

end

variable {F : Type} [FloatText F] (lower : String → String)

/-- Text files are read with every line end as a line feed. -/
def universalNewlines : List Char → List Char
  | '\r' :: '\n' :: rest => '\n' :: universalNewlines rest
  | '\r' :: rest => '\n' :: universalNewlines rest
  | c :: rest => c :: universalNewlines rest
  | [] => []

def readPlan (content : List UInt8) : Option (Json F) := do
  let text ← Bytes.decodeUtf8 content
  JsonLoads.loads maxIntegerDigits (universalNewlines text)

def isOne : Json F → Bool
  | .int value => value = 1
  | .bool value => value
  | .float value => FloatText.render value = "1.0".toList
  | _ => false

def identityFields : List String := [
  "database_path", "fingerprint", "fingerprint_type", "index", "name", "slug", "source_path",
  "target_id"]

def validatedIdentity (value : Json F) : Option TargetIdentity := do
  let members ← objectOf value
  guard (fieldSet members = identityFields)
  let index ← intOf (get members "index")
  guard (1 ≤ index)
  let name ← filledText (get members "name")
  guard (name.toList.count '/' = 1)
  let fingerprint ← filledText (get members "fingerprint")
  let sourcePath ← filledText (get members "source_path")
  let databasePath ← filledText (get members "database_path")
  let fingerprintType ← named fingerprintTypes FingerprintType.text (get members "fingerprint_type")
  guard (isHex (if fingerprintType = .gitCommit then 40 else 64) fingerprint)
  guard (canonicalPath sourcePath ∧ canonicalPath databasePath)
  let identity : TargetIdentity :=
    ⟨index, name, fingerprintType, fingerprint, sourcePath, databasePath⟩
  guard (isText (identity.slug lower) (get members "slug"))
  guard (isText identity.identityId (get members "target_id"))
  return identity

def legacyCapabilityFields : List String := [
  "attestation", "provider_eligible", "public_source_url", "reason"]

def providerCapabilityFields : List String := [
  "attestation", "provider_eligible", "provider_source_commit", "provider_source_path",
  "public_source_url", "reason"]

def validatedCapability (value : Json F) : Option TargetCapability := do
  let members ← objectOf value
  guard (fieldSet members = legacyCapabilityFields ∨ fieldSet members = providerCapabilityFields)
  let providerEligible ← boolOf (get members "provider_eligible")
  let attestation ← named attestations Attestation.text (get members "attestation")
  let publicSourceUrl ← nullableText (get members "public_source_url")
  let reason ← nullableText (get members "reason")
  let providerSourcePath ← nullableText (get members "provider_source_path")
  guard (providerSourcePath.all canonicalPath)
  let providerSourceCommit ← nullableText (get members "provider_source_commit")
  guard (providerSourceCommit.all (isHex 40))
  guard (providerSourcePath.isNone = providerSourceCommit.isNone)
  return ⟨providerEligible, publicSourceUrl, attestation, reason, providerSourcePath,
    providerSourceCommit⟩

def legacyTargetFields : List String := [
  "capability", "identity", "initial_state", "output_path", "target_id"]

def targetFields : List String := [
  "capability", "database_fingerprint", "identity", "initial_state", "output_path", "target_id"]

def validatedTarget (item : Json F) : Option BatchTargetPlan := do
  let members ← objectOf item
  guard (fieldSet members = legacyTargetFields ∨ fieldSet members = targetFields)
  let identity ← validatedIdentity lower (get members "identity")
  guard (isText identity.identityId (get members "target_id"))
  let capability ← validatedCapability (get members "capability")
  let output ← plainText (get members "output_path")
  let initialState ← named targetStates stateText (get members "initial_state")
  let databaseFingerprint ← plainText ((present members "database_fingerprint").getD (.str ""))
  guard (databaseFingerprint = "" ∨ isHex 64 databaseFingerprint)
  let outputPath ← safeOutput output
  return ⟨identity, outputPath, capability, initialState, identity.identityId, databaseFingerprint⟩

def legacyRequired : List String := [
  "batch_schema_version", "inventory_digest", "mode", "output_root", "plan_digest", "plan_id",
  "provider", "run_id", "schema_version", "targets", "tool_version"]

def required : List String := [
  "analysis_mode", "batch_schema_version", "inventory_digest", "mode", "output_root",
  "plan_digest", "plan_id", "provider", "query_failure_policy", "run_id", "schema_version",
  "targets", "tool_version"]

def currentName {α : Type} (current : Bool) (members : List α) (text : α → String)
    (value : Json F) : Option (Option α) :=
  if current then (named members text value).map some else some none

def batchSchemaVersions : List String := ["java-web-dos-batch-v1", batchSchemaVersion]

/-- The plan in a file whose digest is right; any failed check there is one error. -/
def validatedPlan (raw : Members F) : Option (BatchPlan F) := do
  let schemaVersion := get raw "schema_version"
  guard (isOne schemaVersion)
  let toolVersion ← filledText (get raw "tool_version")
  let planDigest ← plainText (get raw "plan_digest")
  guard (isHex 64 planDigest)
  let planId ← plainText (get raw "plan_id")
  guard (Text.startsWith planId "plan:" ∧ isHex 24 (Text.removeLead planId "plan:"))
  let batchSchemaVersion ← plainText (get raw "batch_schema_version")
  guard (batchSchemaVersion ∈ batchSchemaVersions)
  let mode ← named batchModes BatchMode.text (get raw "mode")
  let analysisMode ← currentName (fieldSet raw = required) analysisModes AnalysisMode.text
    (get raw "analysis_mode")
  let queryFailurePolicy ← currentName (fieldSet raw = required) queryFailurePolicies
    QueryFailurePolicy.text (get raw "query_failure_policy")
  let runId ← plainText (get raw "run_id")
  guard (safeRunId runId)
  let root ← plainText (get raw "output_root")
  let outputRoot ← safeOutput root
  guard (outputRoot = root)
  let inventoryDigest ← plainText (get raw "inventory_digest")
  guard (isHex 64 inventoryDigest)
  let provider ← objectOf (get raw "provider")
  -- What is kept of accepted settings is all of them.
  guard (providerSettings provider).isOk
  let items ← arrayOf (get raw "targets")
  let targets ← items.mapM (validatedTarget lower)
  let outputs ← targets.mapM fun target => effectiveOutputKey target.outputPath
  guard (∀ target ∈ targets, target.outputPath = targetOutput lower outputRoot target.identity)
  guard ((targets.map fun target => target.identity.index).Nodup)
  guard ((targets.map BatchTargetPlan.targetId).Nodup)
  guard outputs.Nodup
  return {
    schemaVersion, toolVersion, batchSchemaVersion, runId, mode, outputRoot, inventoryDigest,
    targets, planId, planDigest, provider, analysisMode, queryFailurePolicy }

def unsignedRaw (raw : Members F) : Json F :=
  .obj (raw.filter fun member => member.1 ≠ "plan_id" && member.1 ≠ "plan_digest")

/-- Read a published plan and reject any identity or digest tampering. -/
def loadBatchPlan (content : List UInt8) : Checked (BatchPlan F) :=
  match readPlan content with
  | none => .error (invalidPlan "PLAN_READ_FAILED")
  | some (.obj raw) => do
      require ((fieldSet raw = legacyRequired ∨ fieldSet raw = required) ∧
          (arrayOf (get raw "targets")).isSome) (invalidPlan "PLAN_FIELDS_INVALID")
      match digestOf (unsignedRaw raw) with
      | none => .error (invalidPlan "PLAN_DIGEST_INVALID")
      | some digest => do
          require (isText digest (get raw "plan_digest") ∧
              isText (planIdOf digest) (get raw "plan_id"))
            (invalidPlan "PLAN_DIGEST_MISMATCH")
          match validatedPlan lower raw with
          | none => .error (invalidPlan "TARGET_INVALID")
          | some plan => .ok plan
  | some _ => .error (invalidPlan "PLAN_NOT_OBJECT")

end DosWeb.Batch.Plan
