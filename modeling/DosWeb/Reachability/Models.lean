import DosWeb.Entries.Models

namespace DosWeb.Reachability

open Library Identifiers
open Entries (CoverageStatus AuthContext)

inductive SecurityKind where
  | annotated
  | filter
  | securityFilterChain
  | servletConstraint
  | nettyGate
  | mqttGate
  | configuration
  | deploymentGate
  | dependencyCoverage
  deriving DecidableEq

def SecurityKind.text : SecurityKind → String
  | .annotated => "annotation"
  | .filter => "filter"
  | .securityFilterChain => "security_filter_chain"
  | .servletConstraint => "servlet_constraint"
  | .nettyGate => "netty_gate"
  | .mqttGate => "mqtt_gate"
  | .configuration => "configuration"
  | .deploymentGate => "deployment_gate"
  | .dependencyCoverage => "dependency_coverage"

inductive DeploymentStatus where
  | defaultEnabled
  | defaultDisabled
  | optional
  | unknown
  deriving DecidableEq

def DeploymentStatus.text : DeploymentStatus → String
  | .defaultEnabled => "default_enabled"
  | .defaultDisabled => "default_disabled"
  | .optional => "optional"
  | .unknown => "unknown"

inductive ReachabilityStatus where
  | ordinaryAttackerReachable
  | notEntryReachable
  | unknown
  deriving DecidableEq

def ReachabilityStatus.text : ReachabilityStatus → String
  | .ordinaryAttackerReachable => "ordinary_attacker_reachable"
  | .notEntryReachable => "not_entry_reachable"
  | .unknown => "unknown"

inductive Confidence where
  | high
  | medium
  | low
  deriving DecidableEq

def maxText : Nat := 4096

def bad : Raised :=
  .analyzer ⟨"LLM_RESPONSE_SCHEMA_INVALID", "Reachability artifact violates its strict schema.", []⟩

/-- A non-empty text without NUL of at most `maxText` bytes. -/
def validText (value : String) : Bool :=
  value ≠ "" && !value.toList.contains (Char.ofNat 0) && (Text.utf8 value.toList).length ≤ maxText

def validId (value lead : String) : Bool := validText value && Text.startsWith value lead

def securityIdentity (entryId : String) (kind : SecurityKind) (location : String) (line : Nat)
    (value : String) (coverage : CoverageStatus) : List (String × PlainJson) :=
  [("entry_id", .str entryId), ("kind", .str kind.text), ("location", .str location),
    ("line", .int line), ("value", .str value), ("coverage", .str coverage.text)]

/-- What was observed about the protection or the deployment of an entry. -/
structure EntrySecurityFact where
  entryId : String
  kind : SecurityKind
  location : String
  line : Nat
  value : String
  coverage : CoverageStatus
  factId : String
  entryIdValid : validId entryId "entry:" = true
  locationValid : validText location = true
  valueValid : validText value = true
  factIdCanonical : factId =
    stableIdentifier "security" (securityIdentity entryId kind location line value coverage)
  deriving DecidableEq

/-- A classification of an entry's callers, with the facts it rests on. -/
structure AuthContract where
  authContext : AuthContext
  evidenceIds : List String
  assumptions : List String
  confidence : Confidence
  evidenceBounded : evidenceIds.length ≤ 32
  assumptionsBounded : assumptions.length ≤ 32
  evidenceDistinct : evidenceIds.Nodup
  evidenceValid : ∀ id ∈ evidenceIds, validId id "security:" = true
  assumptionsValid : ∀ text ∈ assumptions, validText text = true

structure ReachabilityDecision where
  entryId : String
  authContractId : String
  authContext : AuthContext
  deploymentStatus : DeploymentStatus
  status : ReachabilityStatus
  evidenceIds : List String
  reasonCodes : List String
  decisionId : String

def decisionIdentity (entryId authContractId : String) (authContext : AuthContext)
    (deploymentStatus : DeploymentStatus) (status : ReachabilityStatus)
    (evidenceIds reasonCodes : List String) : List (String × PlainJson) :=
  [("entry_id", .str entryId), ("auth_contract_id", .str authContractId),
    ("auth_context", .str authContext.text), ("deployment_status", .str deploymentStatus.text),
    ("status", .str status.text), ("evidence_ids", .arr (evidenceIds.map .str)),
    ("reason_codes", .arr (reasonCodes.map .str))]

def expectedStatus (authCoverageGap : Bool) (authContext : AuthContext)
    (deploymentStatus : DeploymentStatus) : ReachabilityStatus :=
  if authCoverageGap then .unknown
  else if (authContext = .unauthenticated ∨ authContext = .lowPrivilege) ∧
      deploymentStatus = .defaultEnabled then .ordinaryAttackerReachable
  else if authContext = .privileged ∨ deploymentStatus = .defaultDisabled ∨
      deploymentStatus = .optional then .notEntryReachable
  else .unknown

def ReachabilityDecision.create (entryId authContractId : String) (authContext : AuthContext)
    (deploymentStatus : DeploymentStatus) (status : ReachabilityStatus)
    (evidenceIds reasonCodes : List String) : Checked ReachabilityDecision := do
  let authCoverageGap := decide ("REACH_AUTH_COVERAGE_PARTIAL" ∈ reasonCodes)
  require (validId entryId "entry:") bad
  require (validId authContractId "auth_contract:") bad
  require (evidenceIds.length ≤ 32 ∧ reasonCodes ≠ [] ∧ reasonCodes.length ≤ 32 ∧
    evidenceIds.Nodup ∧ reasonCodes.Nodup) bad
  require (authCoverageGap = false ∨ authContext = .unknown) bad
  require (status = expectedStatus authCoverageGap authContext deploymentStatus) bad
  require (evidenceIds.all fun id => validId id "security:") bad
  require (reasonCodes.all validText) bad
  return {
    entryId, authContractId, authContext, deploymentStatus, status, evidenceIds, reasonCodes
    decisionId := stableIdentifier "reachability" (decisionIdentity entryId authContractId
      authContext deploymentStatus status evidenceIds reasonCodes) }

theorem create_decision (entryId authContractId : String) (authContext : AuthContext)
    (deploymentStatus : DeploymentStatus) (status : ReachabilityStatus)
    (evidenceIds reasonCodes : List String) (decision : ReachabilityDecision)
    (created : ReachabilityDecision.create entryId authContractId authContext deploymentStatus
      status evidenceIds reasonCodes = .ok decision) :
    decision.authContext = authContext ∧ decision.deploymentStatus = deploymentStatus ∧
      decision.status = status ∧ decision.reasonCodes = reasonCodes := by
  unfold ReachabilityDecision.create at created
  simp only [bind_ok, require_ok, exists_const] at created
  obtain ⟨-, -, -, -, -, -, -, built⟩ := created
  cases built
  exact ⟨rfl, rfl, rfl, rfl⟩

inductive ConfigurationValue where
  | text (value : String)
  | integer (value : Int)
  | flag (value : Bool)
  deriving DecidableEq

inductive Provenance where
  | cliOverride
  | configFile
  | extractedDefault
  | unknown
  deriving DecidableEq

inductive ConfigurationProfile where
  | default
  | unknown
  deriving DecidableEq

inductive ConfigurationStatus where
  | known
  | unknown
  deriving DecidableEq

/-- A configuration text holds no NUL and at most `limit` bytes. -/
def configurationText (limit : Nat) (value : String) : Bool :=
  !value.toList.contains (Char.ofNat 0) && (Text.utf8 value.toList).length ≤ limit

def ConfigurationValue.valid : ConfigurationValue → Bool
  | .text value => configurationText 1024 value
  | .integer value => (toString value.natAbs).length ≤ maxIntegerDigits
  | .flag _ => true

/-- A source path of a configuration fact stays below the source root. -/
def configurationFile (value : String) : Bool :=
  !Text.startsWith value "/" && !(Text.splitOn '/' value.toList).contains ['.', '.'] &&
    (Text.utf8 value.toList).length ≤ 512

structure ModeledConfigurationFact where
  key : String
  value : Option ConfigurationValue
  sourceFile : String
  sourceLine : Nat
  profile : ConfigurationProfile
  provenance : Provenance
  defaultEffective : Bool
  status : ConfigurationStatus
  keyValid : key ≠ "" ∧ configurationText 1024 key = true
  valueValid : ∀ held, value = some held → held.valid = true
  sourceFileValid : configurationFile sourceFile = true
  knownValued : status = .known → value ≠ none ∧ defaultEffective = true
  unknownUnvalued : status = .unknown → value = none

def ConfigurationValue.toDict : ConfigurationValue → PlainJson
  | .text value => .str value
  | .integer value => .int value
  | .flag value => .bool value

def ConfigurationProfile.text : ConfigurationProfile → String
  | .default => "default"
  | .unknown => "unknown"

def Provenance.text : Provenance → String
  | .cliOverride => "cli_override"
  | .configFile => "config_file"
  | .extractedDefault => "extracted_default"
  | .unknown => "unknown"

def ConfigurationStatus.text : ConfigurationStatus → String
  | .known => "known"
  | .unknown => "unknown"

def ModeledConfigurationFact.semanticIdentity (fact : ModeledConfigurationFact) :
    List (String × PlainJson) :=
  [("key", .str fact.key), ("value", (fact.value.map ConfigurationValue.toDict).getD .null),
    ("source_file", .str fact.sourceFile), ("source_line", .int fact.sourceLine),
    ("profile", .str fact.profile.text), ("provenance", .str fact.provenance.text),
    ("default_effective", .bool fact.defaultEffective), ("status", .str fact.status.text)]

def ModeledConfigurationFact.configId (fact : ModeledConfigurationFact) : String :=
  stableIdentifier "config" fact.semanticIdentity

theorem EntrySecurityFact.fact_id_starts (fact : EntrySecurityFact) :
    Text.startsWith fact.factId "security:" = true := by
  rw [fact.factIdCanonical]
  exact stable_identifier_starts "security" _

theorem sample_texts_valid : (validId "entry:test" "entry:" && validText "A.java" &&
    validText "default_enabled" && validText "profile:prod" &&
    validText "unauthenticated_annotation") = true := by
  decide

def sampleFact (factId : String) (kind : SecurityKind) (line : Nat) (value : String)
    (coverage : CoverageStatus) (valid : validText value = true)
    (named : factId = stableIdentifier "security"
      (securityIdentity "entry:test" kind "A.java" line value coverage)) : EntrySecurityFact where
  entryId := "entry:test"
  kind
  location := "A.java"
  line
  value
  coverage
  factId
  entryIdValid := by have := sample_texts_valid; simp_all
  locationValid := by have := sample_texts_valid; simp_all
  valueValid := valid
  factIdCanonical := named

def publicFact : EntrySecurityFact :=
  sampleFact "security:38dfb03190fcc710793c9285" .annotated 1 "unauthenticated_annotation" .complete
    (by have := sample_texts_valid; simp_all) (by
      rw [identifier_codes]
      decide +kernel)

def enabledGate : EntrySecurityFact :=
  sampleFact "security:e8e2c28d1d36a6885f1067e7" .deploymentGate 1 "default_enabled" .complete
    (by have := sample_texts_valid; simp_all) (by
      rw [identifier_codes]
      decide +kernel)

def profileGate : EntrySecurityFact := sampleFact _ .deploymentGate 2 "profile:prod" .complete
    (by have := sample_texts_valid; simp_all) rfl

end DosWeb.Reachability
