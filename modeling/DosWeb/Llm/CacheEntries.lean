import DosWeb.Artifacts.Jsonl
import DosWeb.Library.Hmac
import DosWeb.Library.JsonRecord
import DosWeb.Llm.Replies

/-!
The entries of the contract cache: what a writer serialises and what a reader accepts.
-/

namespace DosWeb.Llm.Cache

open Library Library.JsonValue Library.JsonText Library.JsonSize Library.JsonRecord
open Identifiers Growth

def cacheFormat : String := "growth-contract-cache-v14"

def authCacheFormat : String := "auth-contract-cache-v5"

def responseSchemaVersion : String := "growth-contract-schema-v5"

def maxCacheBytes : Nat := 524288

def maxCacheJsonNodes : Nat := 8192

def maxCacheCollection : Nat := 256

def maxRawResponseBytes : Nat := 131072

def defaultModel : String := "grok-4.6"

def supportedModels : List String := ["grok-4.6"]

def promptVariants : List String := ["initial", "correction"]

def hexDigits : List Char := "0123456789abcdef".toList

def safeKey (key : String) : Bool := key.length = 64 && key.toList.all hexDigits.contains

section

variable {F : Type}

abbrev Dict (F : Type) := { members : Members F // DistinctKeys (.obj members) }

def nodeWithin : Json F → Bool
  | .str text => byteLength text ≤ maxRawResponseBytes
  | .arr items => items.length ≤ maxCacheCollection
  | .obj members => members.length ≤ maxCacheCollection
  | _ => true

def checkJsonBounds (value : Json F) : Bool := (spread 0 value).length ≤ maxCacheJsonNodes &&
    (spread 0 value).all fun node => node.2 ≤ maxJsonDepth && nodeWithin node.1

variable (number : Json F → Json F → Bool)

mutual

/-- Whether Python holds two values to be equal, with their members in key order; `number`
compares numbers and truth values. -/
def equalValues : Json F → Json F → Bool
  | .null, .null => true
  | .str left, .str right => left = right
  | .arr left, .arr right => equalItems left right
  | .obj left, .obj right => equalMembers left right
  | left, right => isNumber left && isNumber right && number left right

def equalItems : List (Json F) → List (Json F) → Bool
  | [], [] => true
  | left :: lefts, right :: rights => equalValues left right && equalItems lefts rights
  | _, _ => false

def equalMembers : Members F → Members F → Bool
  | [], [] => true
  | left :: lefts, right :: rights =>
    left.1 = right.1 && equalValues left.2 right.2 && equalMembers lefts rights
  | _, _ => false

end

def equal (left right : Json F) : Bool := equalValues number (normalize left) (normalize right)

def auditKeys : List String := [
  "actual_model", "allow_remote_llm", "method", "protocol", "provider",
  "provider_request_id_digest", "public_source_url", "requested_model", "slice_content_hash",
  "source_commit_sha", "url", "verified_clean_checkout", "verified_public"]

def safeStringFields : List String := [
  "method", "url", "provider", "protocol", "requested_model", "actual_model", "slice_content_hash",
  "public_source_url", "source_commit_sha"]

/-- The members of an audit that repeat one of the identity. -/
def boundFields : List (String × String) := [
  ("method", "request_method"), ("url", "request_url"), ("provider", "provider"),
  ("protocol", "protocol"), ("slice_content_hash", "slice_content_hash"),
  ("requested_model", "model"), ("public_source_url", "public_source_url"),
  ("source_commit_sha", "source_commit_sha")]

def flagFields : List String := ["allow_remote_llm", "verified_public", "verified_clean_checkout"]

def textWithin (limit : Nat) : Json F → Bool
  | .str text => byteLength text ≤ limit
  | _ => false

def isDigest : Json F → Bool
  | .str text => safeKey text
  | _ => false

def isBool : Json F → Bool
  | .bool _ => true
  | _ => false

/-- Whether a member of the identity is there and equals a value. -/
def repeats (identity : Members F) (value : Json F) (key : String) : Bool :=
  (present identity key).any fun other => equal number value other

def modelMatches (identity : Members F) (actual : Json F) : Bool :=
  match get identity "model", actual with
  | .str requested, .str actual => modelResponseMatches requested actual
  | _, _ => false

def validAudit (audit : Json F) (identity : Members F) : Bool :=
  match audit with
  | .obj members =>
    fieldSet members = auditKeys &&
    (safeStringFields.all fun key => textWithin 512 (get members key)) &&
    isDigest (get members "provider_request_id_digest") &&
    (boundFields.all fun pair => repeats number identity (get members pair.1) pair.2) &&
    modelMatches identity (get members "actual_model") &&
    flagFields.all fun key => isBool (get members key) && repeats number identity (get members key) key
  | _ => false

def validAuthActualModel (identity : Members F) (actual : Json F) : Bool :=
  match (present identity "model").getD (.str defaultModel), actual with
  | .str requested, .str actual =>
    supportedModels.contains requested && 0 < byteLength actual && byteLength actual ≤ 512 &&
      modelResponseMatches requested actual
  | _, _ => false

end

section

variable {F : Type} (discloses : String → Bool)

def freeTexts (contract : GrowthContract) : List String := [
  contract.attackerVariable, contract.growthUnit, contract.growthFunction,
  contract.concurrencyModel, contract.failureSignal]

/-- A contract as it is created, with its free texts checked. -/
abbrev Contract :=
  { contract : GrowthContract // (freeTexts contract).all (freeText discloses) = true }

def growthKinds : List (Option GrowthKind) := [
  some .inputMaterialization, some .directAllocation, some .containerGrowth, some .asyncWorkGrowth,
  none]

def growthKindText (kind : Option GrowthKind) : String := kind.elim "unknown" GrowthKind.text

def resourceDimensions : List (Option ResourceDimension) := [
  some .entries, some .bytes, some .tasks, some .connections, some .objects, none]

def resourceDimensionText (dimension : Option ResourceDimension) : String :=
  dimension.elim "unknown" ResourceDimension.text

def influenceDict (influence : AttackerInfluence) : Json F :=
  .obj [("target", .str influence.target.text), ("evidence_id", .str influence.evidenceId)]

def contractDict (contract : GrowthContract) : Json F := .obj [
  ("is_resource_growth", .str contract.isResourceGrowth.text),
  ("growth_kind", .str (growthKindText contract.growthKind)),
  ("resource_dimension", .str (resourceDimensionText contract.resourceDimension)),
  ("attacker_influence", .arr (contract.attackerInfluence.map influenceDict)),
  ("resource_effect", .str contract.resourceEffect.text),
  ("attacker_variable", .str contract.attackerVariable),
  ("attacker_value_space", .str contract.attackerValueSpace.text),
  ("growth_unit", .str contract.growthUnit), ("growth_function", .str contract.growthFunction),
  ("amplification_class", .str contract.amplificationClass.text),
  ("requests_to_pressure", .str contract.requestsToPressure.text),
  ("concurrency_model", .str contract.concurrencyModel),
  ("retention_window", .str contract.retentionWindow.text),
  ("failure_mechanism", .str contract.failureMechanism.text),
  ("failure_signal", .str contract.failureSignal),
  ("required_static_evidence", .arr (contract.requiredStaticEvidence.map .str)),
  ("contract_status", .str contract.contractStatus.text),
  ("rejection_reason", .str contract.rejectionReason.text),
  ("confidence", .str contract.confidence.text)]

def contractKeys : List String := [
  "amplification_class", "attacker_influence", "attacker_value_space", "attacker_variable",
  "concurrency_model", "confidence", "contract_status", "failure_mechanism", "failure_signal",
  "growth_function", "growth_kind", "growth_unit", "is_resource_growth", "rejection_reason",
  "requests_to_pressure", "required_static_evidence", "resource_dimension", "resource_effect",
  "retention_window"]

def influenceItem (item : Json F) : Checked AttackerInfluence := do
  require ((objectOf item).any fun members => fieldSet members = ["evidence_id", "target"])
    schemaError
  let target ← contractEnum influenceTargets DemandRole.text item "target"
  match field "evidence_id" item with
  | some (.str evidenceId) => do
      require (byteLength evidenceId ≤ 256) schemaError
      if valid : validId evidenceId "fact:" = true then .ok ⟨target, evidenceId, valid⟩
      else .error (invalidContract "Invalid attacker influence.")
  | _ => .error schemaError

def influenceItems (payload : Json F) : Checked (List AttackerInfluence) :=
  match field "attacker_influence" payload with
  | some (.arr items) => do
      require (items.length ≤ 16) schemaError
      items.mapM influenceItem
  | _ => .error schemaError

def validateGrowthContract (payload : Json F) : Checked (Contract discloses) := do
  require ((objectOf payload).any fun members => fieldSet members = contractKeys) schemaError
  let isResourceGrowth ← contractEnum [.yes, .no, .unknown] Answer.text payload
    "is_resource_growth"
  let growthKind ← contractEnum growthKinds growthKindText payload "growth_kind"
  let resourceDimension ← contractEnum resourceDimensions resourceDimensionText payload
    "resource_dimension"
  let confidence ← contractEnum [.high, .medium, .low] Confidence.text payload "confidence"
  let resourceEffect ← contractEnum [.materializesBytes, .allocatesObjects, .addsEntries,
    .enqueuesTasks, .opensConnections, .unknown] ResourceEffect.text payload "resource_effect"
  let attackerValueSpace ← contractEnum [.stream, .unlimited, .large, .limited,
    .serverControlled, .unknown] ValueSpace.text payload "attacker_value_space"
  let amplificationClass ← contractEnum [.superlinear, .largeSingleRequest, .concurrentRetention,
    .queueInstability, .highCardinalityRetention, .lowAmplification, .unknown]
    AmplificationClass.text payload "amplification_class"
  let requestsToPressure ← contractEnum [.one, .few, .many, RequestsToPressure.implausible, .unknown]
    RequestsToPressure.text payload "requests_to_pressure"
  let retentionWindow ← contractEnum [.request, .session, .process, .untilRelease, .unknown]
    RetentionWindow.text payload "retention_window"
  let failureMechanism ← contractEnum [.heapExhaustion, .gcThrashing, .cpuStarvation,
    .threadExhaustion, .connectionExhaustion, .queueLatencyCollapse, .none, .unknown]
    FailureMechanism.text payload "failure_mechanism"
  let contractStatus ← contractEnum [.dosRelevant, .growthNotDosRelevant, .unknown]
    ContractStatus.text payload "contract_status"
  let rejectionReason ← contractEnum [.none, .requestLocalBounded, .serverControlled,
    .fixedCardinality, .effectivePrecondition, .lowAmplification, .noFailureMechanism, .unknown]
    RejectionReason.text payload "rejection_reason"
  let attackerVariable ← contractText payload "attacker_variable"
  let growthUnit ← contractText payload "growth_unit"
  let growthFunction ← contractText payload "growth_function"
  let concurrencyModel ← contractText payload "concurrency_model"
  let failureSignal ← contractText payload "failure_signal"
  let attackerInfluence ← influenceItems payload
  let requiredStaticEvidence ← contractIds payload "required_static_evidence" 32
  if bounded : attackerInfluence.length ≤ 16 ∧ requiredStaticEvidence.length ≤ 32 ∧
      ∀ identifier ∈ requiredStaticEvidence, validId identifier "fact:" = true then
    if allowed : statusAllowed contractStatus rejectionReason isResourceGrowth then
      let contract : GrowthContract := {
        isResourceGrowth, growthKind, resourceDimension, attackerInfluence, resourceEffect
        attackerVariable, attackerValueSpace, growthUnit, growthFunction, amplificationClass
        requestsToPressure, concurrencyModel, retentionWindow, failureMechanism, failureSignal
        requiredStaticEvidence, contractStatus, rejectionReason, confidence
        influenceBounded := bounded.1
        evidenceBounded := bounded.2.1
        evidenceValid := bounded.2.2
        rejectionExplained := allowed.1
        relevanceUnrejected := allowed.2.1
        relevanceGrows := allowed.2.2.1
        unknownThroughout := allowed.2.2.2 }
      if free : (freeTexts contract).all (freeText discloses) = true then .ok ⟨contract, free⟩
      else .error (invalidContract "Invalid Growth Contract.")
    else .error (invalidContract "Invalid Growth Contract.")
  else .error (invalidContract "Invalid Growth Contract.")

end

variable {F : Type} [FloatText F] (number : Json F → Json F → Bool) (discloses : String → Bool)
  (authenticationKey : List UInt8) (tooDeep : List Char → Bool)

structure GrowthPut where
  key : String
  identity : Dict F
  contract : Contract discloses
  requestAudit : Dict F
  rawResponse : String
  acceptedPromptVariant : String

structure GrowthCacheSnapshot where
  contract : Contract discloses
  rawResponse : String
  acceptedPromptVariant : String
  actualModel : String
  requestId : String

def domain (name : String) : List UInt8 := Text.utf8 (name.toList ++ [Char.ofNat 0])

def entryHmac (entry : Json F) : String :=
  Hmac.hexdigest authenticationKey (domain "growth-contract-cache-entry-v14" ++ canonicalJson entry)

def authHmac (entry : Json F) : String :=
  Hmac.hexdigest authenticationKey (domain authCacheFormat ++ canonicalJson entry)

def withHash (members : Members F) : Members F :=
  members ++ [("entry_hash", .str (sha256CanonicalJson (.obj members)))]

def withHmac (mac : Json F → String) (members : Members F) : Members F :=
  members ++ [("entry_hmac", .str (mac (.obj members)))]

variable {discloses} in
def GrowthPut.stable (put : GrowthPut (F := F) discloses) : Members F := [
  ("cache_format", .str cacheFormat), ("cache_key", .str put.key),
  ("response_schema_version", .str responseSchemaVersion), ("identity", .obj put.identity.val),
  ("identity_hash", .str (sha256CanonicalJson (.obj put.identity.val))),
  ("request_audit", .obj put.requestAudit.val),
  ("audit_hash", .str (sha256CanonicalJson (.obj put.requestAudit.val))),
  ("accepted_prompt_variant", .str put.acceptedPromptVariant),
  ("raw_response", .str put.rawResponse),
  ("raw_response_hash", .str (Sha256.hexdigest (Text.utf8 put.rawResponse.toList))),
  ("contract", contractDict put.contract.val),
  ("contract_hash", .str (sha256CanonicalJson (contractDict put.contract.val : Json F)))]

variable {discloses} in
def GrowthPut.entry (put : GrowthPut (F := F) discloses) : Members F :=
  withHmac (entryHmac authenticationKey) (withHash put.stable)

def writeFailed (message : String) : Raised := .analyzer ⟨"LLM_CACHE_WRITE_FAILED", message, []⟩

variable {discloses} in
def GrowthPut.check (put : GrowthPut (F := F) discloses) : Checked Unit := do
  require (safeKey put.key && validAudit number (.obj put.requestAudit.val) put.identity.val &&
    promptVariants.contains put.acceptedPromptVariant) (.valueError "invalid cache entry")
  require (byteLength put.rawResponse ≤ maxRawResponseBytes)
    (writeFailed "LLM cache response exceeds its byte limit.")

/-- The bytes of an entry; `recursionLimit` is the encoder's. -/
def serialize (recursionLimit : Nat) (entry : Members F) (message : String) :
    Checked (List UInt8) := do
  require (Artifacts.encodable recursionLimit (.obj entry))
    (.valueError "Out of range float values are not JSON compliant")
  require ((canonicalJson (.obj entry)).length ≤ maxCacheBytes) (writeFailed message)
  return canonicalJson (.obj entry)

structure AuthPut (F : Type) where
  key : String
  identity : Dict F
  contract : Dict F
  rawResponse : String
  acceptedPromptVariant : String
  actualModel : String

structure AuthRecord (F : Type) where
  contract : Members F
  rawResponse : String
  acceptedPromptVariant : String
  actualModel : String

def AuthPut.stable (put : AuthPut F) : Members F := [("cache_format", .str authCacheFormat),
  ("cache_key", .str put.key), ("identity", .obj put.identity.val),
  ("contract", .obj put.contract.val), ("raw_response", .str put.rawResponse),
  ("accepted_prompt_variant", .str put.acceptedPromptVariant),
  ("actual_model", .str put.actualModel)]

def AuthPut.entry (put : AuthPut F) : Members F :=
  withHmac (authHmac authenticationKey) (withHash put.stable)

def AuthPut.check (put : AuthPut F) : Checked Unit :=
  require (safeKey put.key && byteLength put.rawResponse ≤ maxRawResponseBytes &&
    promptVariants.contains put.acceptedPromptVariant &&
    validAuthActualModel put.identity.val (.str put.actualModel))
    (.valueError "invalid auth cache entry")

/-- What loading a file raises: an error of its values, or the interpreter's of its nesting. -/
inductive Unread where
  | value
  | recursion
  deriving DecidableEq

/-- `tooDeep` tells of a text whether the decoder runs out of recursion on it. -/
def strictLoad (content : List UInt8) : Except Unread (Json F) :=
  match (if content.length ≤ maxCacheBytes then Bytes.decodeUtf8 content else none) with
  | none => .error .value
  | some text =>
    if tooDeep text then .error .recursion
    else
      match loads maxIntegerDigits text with
      | none => .error .value
      | some value => if checkJsonBounds value then .ok value else .error .value

def without (key : String) (members : Members F) : Members F :=
  members.filter fun member => member.1 ≠ key

def hashes (value recorded : Json F) : Bool :=
  (digestOf value).any fun digest => isText digest recorded

def entryKeys : List String := [
  "accepted_prompt_variant", "audit_hash", "cache_format", "cache_key", "contract",
  "contract_hash", "entry_hash", "entry_hmac", "identity", "identity_hash", "raw_response",
  "raw_response_hash", "request_audit", "response_schema_version"]

/-- The snapshot of a loaded entry, only after every authenticated field is valid. -/
def growthSnapshot (key : String) (identity : Dict F) (value : Json F) :
    Option (GrowthCacheSnapshot discloses) := do
  let raw ← objectOf value
  guard (fieldSet raw = entryKeys)
  guard (isText cacheFormat (get raw "cache_format") ∧ isText key (get raw "cache_key") ∧
    isText responseSchemaVersion (get raw "response_schema_version") ∧
    equal number (get raw "identity") (.obj identity.val))
  guard (hashes (.obj identity.val) (get raw "identity_hash"))
  let audit := get raw "request_audit"
  guard (validAudit number audit identity.val ∧ hashes audit (get raw "audit_hash"))
  let actualModel ← (field "actual_model" audit).bind plainText
  let rawResponse ← plainText (get raw "raw_response")
  guard (byteLength rawResponse ≤ maxRawResponseBytes ∧
    isText (Sha256.hexdigest (Text.utf8 rawResponse.toList)) (get raw "raw_response_hash"))
  let variant ← plainText (get raw "accepted_prompt_variant")
  guard (promptVariants.contains variant)
  let payload := get raw "contract"
  guard ((objectOf payload).isSome ∧ hashes payload (get raw "contract_hash"))
  let unsigned := without "entry_hmac" raw
  guard (hashes (.obj (without "entry_hash" unsigned)) (get raw "entry_hash"))
  guard (isText (entryHmac authenticationKey (.obj unsigned)) (get raw "entry_hmac"))
  let contract ← (validateGrowthContract discloses payload).toOption
  return ⟨contract, rawResponse, variant, actualModel, ""⟩

/-- Read one Growth entry; whatever loading raises, it is a miss. -/
def strictGrowthEntry (key : String) (identity : Dict F) (content : List UInt8) :
    Option (GrowthCacheSnapshot discloses) := (strictLoad tooDeep content).toOption.bind
    (growthSnapshot number discloses authenticationKey key identity)

def authKeys : List String := [
  "accepted_prompt_variant", "actual_model", "cache_format", "cache_key", "contract", "entry_hash",
  "entry_hmac", "identity", "raw_response"]

/-- The record of a loaded entry; older authenticated identities stay cold. -/
def authRecord (key : String) (identity : Dict F) (value : Json F) : Option (AuthRecord F) := do
  let raw ← objectOf value
  guard (fieldSet raw = authKeys ∧ isText key (get raw "cache_key") ∧
    equal number (get raw "identity") (.obj identity.val))
  let unsigned := without "entry_hmac" raw
  guard (hashes (.obj (without "entry_hash" unsigned)) (get raw "entry_hash"))
  let contract ← objectOf (get raw "contract")
  let rawResponse ← plainText (get raw "raw_response")
  let variant ← plainText (get raw "accepted_prompt_variant")
  guard (promptVariants.contains variant)
  guard (validAuthActualModel identity.val (get raw "actual_model"))
  let actualModel ← plainText (get raw "actual_model")
  guard (isText authCacheFormat (get raw "cache_format"))
  guard (isText (authHmac authenticationKey (.obj unsigned)) (get raw "entry_hmac"))
  return ⟨contract, rawResponse, variant, actualModel⟩

/-- Read one Auth record; the interpreter's error of its nesting is not caught here. -/
def strictAuthRecord (key : String) (identity : Dict F) (content : List UInt8) :
    Except Unread (Option (AuthRecord F)) :=
  match strictLoad tooDeep content with
  | .error .recursion => .error .recursion
  | .error .value => .ok none
  | .ok value => .ok (authRecord number authenticationKey key identity value)

end DosWeb.Llm.Cache
