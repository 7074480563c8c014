import DosWeb.Identifiers
import DosWeb.Library.OrderedSet

namespace DosWeb.Growth

open Library Library.JsonValue Identifiers

def identifierChar (c : Char) : Bool := c.isAlphanum || c = '.' || c = '_' || c = '-'

def kindChar (c : Char) : Bool := ('a' ≤ c && c ≤ 'z') || c = '_'

def identifierShape (value : String) : Bool :=
  match Text.partition ':' value.toList with
  | none => false
  | some (kind, suffix) =>
    kind ≠ [] && kind.all kindChar && suffix ≠ [] && suffix.all identifierChar

/-- An identifier of at most 256 bytes with the given lead. -/
def validId (value lead : String) : Bool :=
  (Text.utf8 value.toList).length ≤ 256 && Text.startsWith value lead && identifierShape value

theorem hex_identifierChar : ∀ c ∈ "0123456789abcdef".toList,
    identifierChar c = true ∧ c.toNat < 128 := by
  have all : "0123456789abcdef".toList.all (fun c => identifierChar c && decide (c.toNat < 128)) =
      true := by
    decide
  simpa using List.all_eq_true.mp all

theorem kindChar_ascii (c : Char) (kind : kindChar c = true) : c.toNat < 128 ∧ c ≠ ':' := by
  simp only [kindChar, Bool.or_eq_true, Bool.and_eq_true, decide_eq_true_eq] at kind
  rcases kind with ⟨_, below⟩ | rfl
  · have small : c.toNat ≤ 122 := UInt32.le_iff_toNat_le.mp (Char.le_def.mp below)
    refine ⟨by omega, ?_⟩
    rintro rfl
    contradiction
  · decide

theorem stable_identifier_valid (lead start : String) (same : start = lead ++ ":")
    (identity : Members Empty) (filled : lead.toList ≠ []) (short : lead.toList.length ≤ 200)
    (kinds : ∀ c ∈ lead.toList, kindChar c = true) :
    validId (stableIdentifier lead identity) start = true := by
  subst same
  let suffix := (sha256CanonicalJson (.obj identity)).toList.take 24
  have text : (stableIdentifier lead identity).toList = lead.toList ++ ':' :: suffix := by
    simp [stableIdentifier, suffix, String.toList_append]
  have hex : ∀ c ∈ suffix, identifierChar c = true ∧ c.toNat < 128 := fun c member =>
    hex_identifierChar c (Sha256.hexdigest_digits _ c (List.mem_of_mem_take member))
  have size : suffix.length = 24 := by
    have full := Sha256.hexdigest_length (canonicalJson (Json.obj identity : PlainJson))
    simp only [suffix, sha256CanonicalJson, List.length_take, String.length_toList, full]
    decide
  have ascii : ∀ c ∈ (stableIdentifier lead identity).toList, c.toNat < 128 := by
    rw [text]
    intro c member
    rcases List.mem_append.mp member with inLead | inTail
    · exact (kindChar_ascii c (kinds c inLead)).1
    · rcases List.mem_cons.mp inTail with rfl | inSuffix
      · decide
      · exact (hex c inSuffix).2
  have split : Text.partition ':' (stableIdentifier lead identity).toList =
      some (lead.toList, suffix) := by
    rw [text]
    exact Text.partition_append ':' _ _ (fun member => (kindChar_ascii ':' (kinds ':' member)).2 rfl)
  have bytes : (Text.utf8 (stableIdentifier lead identity).toList).length ≤ 256 := by
    rw [Text.utf8_length_ascii _ ascii, text, List.length_append, List.length_cons]
    omega
  have nonempty : suffix ≠ [] := by
    intro empty
    simp [empty] at size
  have shape : identifierShape (stableIdentifier lead identity) = true := by
    simp only [identifierShape, split, Bool.and_eq_true, List.all_eq_true, decide_eq_true_eq]
    exact ⟨⟨⟨filled, kinds⟩, nonempty⟩, fun c member => (hex c member).1⟩
  simp [validId, bytes, shape, stable_identifier_starts]

inductive StaticFactKind where
  | containerWrite
  | allocation
  | inputMaterialization
  | asyncSubmission
  | flow
  | guard
  | bound
  | release
  | driverOrigin
  | valueSpace
  | escapeScope
  | retention
  | amplification
  | loopMultiplicity
  | fieldIdentity
  | materializationPhase
  | knownLimitLocation
  | attackerTarget
  deriving DecidableEq

inductive FactRelation where
  | source
  | sink
  | flowsTo
  | guards
  | bounds
  | releases
  deriving DecidableEq

def driverOriginValues : List String :=
  ["request_body", "request_parameter", "request_path", "request_header", "request_stream",
    "network_message", "server_controlled", "unknown"]

/-- The normalized values a kind of fact must carry one of, where it must carry one. -/
def StaticFactKind.values : StaticFactKind → Option (List String)
  | .driverOrigin => some driverOriginValues
  | .valueSpace =>
    some ["stream", "unlimited", "large", "limited", "server_controlled", "unknown"]
  | .escapeScope => some ["request", "session", "instance", "global", "unknown"]
  | .retention => some ["request", "session", "process", "until_release", "unknown"]
  | .amplification =>
    some ["superlinear", "large_single_request", "concurrent_retention", "queue_instability",
      "high_cardinality_retention", "low_amplification", "unknown"]
  | .loopMultiplicity =>
    some ["single_operation", "repeated_requests", "attacker_controlled_loop",
      "concurrent_requests", "unknown"]
  | .fieldIdentity =>
    some ["attacker_key", "attacker_value", "field_backed", "request_local", "fixed_key", "unknown"]
  | .materializationPhase =>
    some ["before_handler", "in_handler", "streaming", "after_handler", "unknown"]
  | .knownLimitLocation =>
    some ["pre_growth", "post_growth", "configured_unknown_phase", "none", "unknown"]
  | .attackerTarget =>
    some ["size", "key", "value", "iteration_count", "submission_count", "unknown"]
  | _ => none

def validNormalizedValue (kind : StaticFactKind) (value : Option String) : Bool :=
  match kind.values, value with
  | some allowed, some text => allowed.contains text
  | some _, none => false
  | none, none => true
  | none, some text => kind = .flow && driverOriginValues.contains text

structure StaticFact where
  factId : String
  kind : StaticFactKind
  locationRef : String
  relation : FactRelation
  valueRef : Option String
  normalizedValue : Option String
  factIdValid : validId factId "fact:" = true
  locationValid : validId locationRef "excerpt:" = true
  valueRefValid : ∀ reference, valueRef = some reference → validId reference "fact:" = true
  valueValid : validNormalizedValue kind normalizedValue = true
  deriving DecidableEq

/-- Of an excerpt, only the identifier is compared with the facts' locations. -/
structure SourceExcerpt where
  excerptId : String
  excerptIdValid : validId excerptId "excerpt:" = true
  deriving DecidableEq

structure BoundedSlicePayload where
  entryId : String
  growthId : String
  sourceExcerpts : List SourceExcerpt
  staticFacts : List StaticFact
  entryIdValid : validId entryId "entry:" = true
  growthIdValid : validId growthId "growth:" = true
  excerptsRequired : sourceExcerpts ≠ []
  excerptsBounded : sourceExcerpts.length ≤ 64
  factsBounded : staticFacts.length ≤ 256
  excerptsDistinct : (sourceExcerpts.map SourceExcerpt.excerptId).Nodup
  factsDistinct : (staticFacts.map StaticFact.factId).Nodup
  locationsKnown : ∀ fact ∈ staticFacts,
    fact.locationRef ∈ sourceExcerpts.map SourceExcerpt.excerptId
  valueRefsKnown : ∀ fact ∈ staticFacts, ∀ reference, fact.valueRef = some reference →
    reference ∈ staticFacts.map StaticFact.factId

structure BoundedSlice where
  sliceId : String
  payload : BoundedSlicePayload
  sliceIdValid : validId sliceId "slice:" = true

def BoundedSlice.growthId (boundedSlice : BoundedSlice) : String := boundedSlice.payload.growthId

inductive GrowthKind where
  | inputMaterialization
  | directAllocation
  | containerGrowth
  | asyncWorkGrowth
  deriving DecidableEq

inductive ResourceDimension where
  | entries
  | bytes
  | tasks
  | connections
  | objects
  deriving DecidableEq

inductive DemandRole where
  | size
  | key
  | value
  | iterationCount
  | submissionCount
  | unknown
  deriving DecidableEq

inductive Answer where
  | yes
  | no
  | unknown
  deriving DecidableEq

inductive ResourceEffect where
  | materializesBytes
  | allocatesObjects
  | addsEntries
  | enqueuesTasks
  | opensConnections
  | unknown
  deriving DecidableEq

inductive ValueSpace where
  | stream
  | unlimited
  | large
  | limited
  | serverControlled
  | unknown
  deriving DecidableEq

inductive AmplificationClass where
  | superlinear
  | largeSingleRequest
  | concurrentRetention
  | queueInstability
  | highCardinalityRetention
  | lowAmplification
  | unknown
  deriving DecidableEq

inductive RequestsToPressure where
  | one
  | few
  | many
  | implausible
  | unknown
  deriving DecidableEq

inductive RetentionWindow where
  | request
  | session
  | process
  | untilRelease
  | unknown
  deriving DecidableEq

inductive FailureMechanism where
  | heapExhaustion
  | gcThrashing
  | cpuStarvation
  | threadExhaustion
  | connectionExhaustion
  | queueLatencyCollapse
  | none
  | unknown
  deriving DecidableEq

inductive ContractStatus where
  | dosRelevant
  | growthNotDosRelevant
  | unknown
  deriving DecidableEq

inductive RejectionReason where
  | none
  | requestLocalBounded
  | serverControlled
  | fixedCardinality
  | effectivePrecondition
  | lowAmplification
  | noFailureMechanism
  | unknown
  deriving DecidableEq

inductive Confidence where
  | high
  | medium
  | low
  deriving DecidableEq

def ValueSpace.text : ValueSpace → String
  | .stream => "stream"
  | .unlimited => "unlimited"
  | .large => "large"
  | .limited => "limited"
  | .serverControlled => "server_controlled"
  | .unknown => "unknown"

def AmplificationClass.text : AmplificationClass → String
  | .superlinear => "superlinear"
  | .largeSingleRequest => "large_single_request"
  | .concurrentRetention => "concurrent_retention"
  | .queueInstability => "queue_instability"
  | .highCardinalityRetention => "high_cardinality_retention"
  | .lowAmplification => "low_amplification"
  | .unknown => "unknown"

def RetentionWindow.text : RetentionWindow → String
  | .request => "request"
  | .session => "session"
  | .process => "process"
  | .untilRelease => "until_release"
  | .unknown => "unknown"

structure AttackerInfluence where
  target : DemandRole
  evidenceId : String
  evidenceIdValid : validId evidenceId "fact:" = true
  deriving DecidableEq

/-- A provider's answer bound to a candidate; an undetermined kind or dimension is `none`.
The patterns that the five free texts must not match are not modelled. -/
structure GrowthContract where
  isResourceGrowth : Answer
  growthKind : Option GrowthKind
  resourceDimension : Option ResourceDimension
  attackerInfluence : List AttackerInfluence
  resourceEffect : ResourceEffect
  attackerVariable : String
  attackerValueSpace : ValueSpace
  growthUnit : String
  growthFunction : String
  amplificationClass : AmplificationClass
  requestsToPressure : RequestsToPressure
  concurrencyModel : String
  retentionWindow : RetentionWindow
  failureMechanism : FailureMechanism
  failureSignal : String
  requiredStaticEvidence : List String
  contractStatus : ContractStatus
  rejectionReason : RejectionReason
  confidence : Confidence
  influenceBounded : attackerInfluence.length ≤ 16
  evidenceBounded : requiredStaticEvidence.length ≤ 32
  evidenceValid : ∀ identifier ∈ requiredStaticEvidence, validId identifier "fact:" = true
  rejectionExplained : contractStatus = .growthNotDosRelevant →
    rejectionReason ≠ .none ∧ rejectionReason ≠ .unknown
  relevanceUnrejected : contractStatus = .dosRelevant → rejectionReason = .none
  relevanceGrows : contractStatus = .dosRelevant → isResourceGrowth = .yes
  unknownThroughout : contractStatus = .unknown →
    rejectionReason = .unknown ∧ isResourceGrowth = .unknown

end DosWeb.Growth
