import DosWeb.Entries.Coverage
import DosWeb.Identifiers
import Mathlib.Data.Prod.Lex

namespace DosWeb.Entries

open Library Library.JsonValue Library.OrderedSet Identifiers Entries.Coverage

inductive Framework where
  | springMvc
  | servlet
  | netty
  | mqtt
  | jaxRs
  | grpc
  deriving DecidableEq

inductive Protocol where
  | http
  | tcp
  | mqtt
  | grpc
  deriving DecidableEq

inductive AuthContext where
  | unauthenticated
  | lowPrivilege
  | privileged
  | unknown
  deriving DecidableEq

inductive MaterializationPhase where
  | beforeHandler
  | inHandler
  | streaming
  | unknown
  deriving DecidableEq

inductive InputKind where
  | requestBody
  | requestParameter
  | modelAttribute
  | pathParameter
  | header
  | messagePayload
  | stream
  | unknown
  deriving DecidableEq

inductive RegistrationKind where
  | annotationMapping
  | staticRegistration
  | pipelineRegistration
  | subscriptionRegistration
  | brokerRegistration
  deriving DecidableEq

/-- How much of a domain the static analysis has covered. -/
inductive CoverageStatus where
  | complete
  | partialCoverage
  | unsupported
  deriving DecidableEq

def CoverageStatus.text : CoverageStatus → String
  | .complete => "complete"
  | .partialCoverage => "partial"
  | .unsupported => "unsupported"

def Framework.text : Framework → String
  | .springMvc => "spring_mvc"
  | .servlet => "servlet"
  | .netty => "netty"
  | .mqtt => "mqtt"
  | .jaxRs => "jax_rs"
  | .grpc => "grpc"

def Protocol.text : Protocol → String
  | .http => "http"
  | .tcp => "tcp"
  | .mqtt => "mqtt"
  | .grpc => "grpc"

def AuthContext.text : AuthContext → String
  | .unauthenticated => "unauthenticated"
  | .lowPrivilege => "low_privilege"
  | .privileged => "privileged"
  | .unknown => "unknown"

def MaterializationPhase.text : MaterializationPhase → String
  | .beforeHandler => "before_handler"
  | .inHandler => "in_handler"
  | .streaming => "streaming"
  | .unknown => "unknown"

def InputKind.text : InputKind → String
  | .requestBody => "request_body"
  | .requestParameter => "request_parameter"
  | .modelAttribute => "model_attribute"
  | .pathParameter => "path_parameter"
  | .header => "header"
  | .messagePayload => "message_payload"
  | .stream => "stream"
  | .unknown => "unknown"

def RegistrationKind.text : RegistrationKind → String
  | .annotationMapping => "annotation_mapping"
  | .staticRegistration => "static_registration"
  | .pipelineRegistration => "pipeline_registration"
  | .subscriptionRegistration => "subscription_registration"
  | .brokerRegistration => "broker_registration"

def Framework.protocol : Framework → Protocol
  | .springMvc => .http
  | .servlet => .http
  | .netty => .tcp
  | .mqtt => .mqtt
  | .jaxRs => .http
  | .grpc => .grpc

def Framework.registrations : Framework → List RegistrationKind
  | .springMvc => [.annotationMapping, .staticRegistration]
  | .servlet => [.annotationMapping, .staticRegistration]
  | .netty => [.pipelineRegistration]
  | .mqtt => [.subscriptionRegistration, .brokerRegistration]
  | .jaxRs => [.annotationMapping, .staticRegistration]
  | .grpc => [.staticRegistration]

def maxStringBytes : Nat := 65536

def httpMethods : List String :=
  ["GET", "POST", "PUT", "DELETE", "PATCH", "HEAD", "OPTIONS", "TRACE", "CONNECT"]

def invalidDetails (reason : String) (field : Option String) : Members Empty :=
  ("reason", .str reason) :: (field.map fun name => ("field", Json.str name)).toList

def entryInvalid (reason : String) (field : Option String := none) : Raised :=
  .analyzer ⟨"ANALYSIS_ENTRY_INVALID", "Entry fact violates the registered-entry contract.",
    invalidDetails reason field⟩

def coverageInvalid (reason : String) (field : Option String := none) : Raised :=
  .analyzer ⟨"COVERAGE_ENTRY_INVALID", "Framework entry coverage is inconsistent.",
    invalidDetails reason field⟩

/-- A non-empty text without NUL of at most `maxStringBytes` bytes. -/
def validText (value : String) : Bool := value ≠ "" && !value.toList.contains (Char.ofNat 0) &&
    (Text.utf8 value.toList).length ≤ maxStringBytes

abbrev FieldText := { value : String // validText value = true }

theorem token_valid : validText "token" = true := by
  decide +kernel

def nonemptyString (value field : String) : Checked FieldText :=
  if value = "" ∨ value.toList.contains (Char.ofNat 0) then
    .error (entryInvalid "STRING_REQUIRED" (some field))
  else if valid : validText value = true then .ok ⟨value, valid⟩
  else .error (entryInvalid "STRING_LIMIT" (some field))

/-- The parts of a relative path: empty parts and dots are dropped. -/
def pathParts (path : List Char) : List (List Char) :=
  (Text.splitOn '/' path).filter fun part => part ≠ [] && part ≠ ['.']

def normalPath (path : List Char) : Option (List Char) :=
  let slashed := path.map fun c => if c = '\\' then '/' else c
  let parts := pathParts slashed
  if slashed.head? = some '/' ∨ parts = [] ∨ ['.', '.'] ∈ parts then none
  else some (['/'].intercalate parts)

abbrev SourcePath :=
  { value : String // validText value = true ∧ normalPath value.toList = some value.toList }

theorem cache_path_valid : validText "src/Cache.java" = true ∧
    normalPath "src/Cache.java".toList = some "src/Cache.java".toList := by
  decide +kernel

abbrev PositiveLine := { line : Nat // 0 < line }

theorem eight_positive : 0 < 8 := by decide

theorem nine_positive : 0 < 9 := by decide

structure HandlerFact where
  callable : FieldText
  file : SourcePath
  startLine : PositiveLine
  deriving DecidableEq

structure RegistrationFact where
  kind : RegistrationKind
  callable : FieldText
  file : SourcePath
  startLine : PositiveLine
  deriving DecidableEq

structure AttackerInputFact where
  name : FieldText
  type : FieldText
  kind : InputKind
  deriving DecidableEq

def HandlerFact.toDict (fact : HandlerFact) : PlainJson :=
  .obj [("callable", .str fact.callable.1), ("file", .str fact.file.1),
    ("start_line", .int fact.startLine.1)]

def RegistrationFact.toDict (fact : RegistrationFact) : PlainJson :=
  .obj [("kind", .str fact.kind.text), ("callable", .str fact.callable.1),
    ("file", .str fact.file.1), ("start_line", .int fact.startLine.1)]

def AttackerInputFact.toDict (fact : AttackerInputFact) : PlainJson :=
  .obj [("name", .str fact.name.1), ("type", .str fact.type.1), ("kind", .str fact.kind.text)]

/-- The dataclass order compares the fields one after the other. -/
def AttackerInputFact.orderKey (fact : AttackerInputFact) : String ×ₗ String ×ₗ String :=
  toLex (fact.name.1, toLex (fact.type.1, fact.kind.text))

theorem InputKind.text_injective (left right : InputKind) (same : left.text = right.text) :
    left = right := by
  cases left <;> cases right <;> first | rfl | exact absurd same (by decide)

theorem AttackerInputFact.orderKey_injective : Function.Injective AttackerInputFact.orderKey := by
  intro left right same
  rcases left with ⟨leftName, leftType, leftKind⟩
  rcases right with ⟨rightName, rightType, rightKind⟩
  have pair := toLex_inj.mp same
  have rest := toLex_inj.mp (congrArg Prod.snd pair)
  have name : leftName = rightName := Subtype.ext (congrArg Prod.fst pair)
  have type : leftType = rightType := Subtype.ext (congrArg Prod.fst rest)
  have kind : leftKind = rightKind := InputKind.text_injective _ _ (congrArg Prod.snd rest)
  rw [name, type, kind]

instance : LinearOrder AttackerInputFact :=
  LinearOrder.lift' AttackerInputFact.orderKey AttackerInputFact.orderKey_injective

/-- The characters whose upper case is made of letters A to Z. -/
def upperExpansions : List (Nat × List Char) := [
  (0xdf, ['S', 'S']), (0x131, ['I']), (0x17f, ['S']), (0xfb00, ['F', 'F']), (0xfb01, ['F', 'I']),
  (0xfb02, ['F', 'L']), (0xfb03, ['F', 'F', 'I']), (0xfb04, ['F', 'F', 'L']),
  (0xfb05, ['S', 'T']), (0xfb06, ['S', 'T'])]

/-- The HTTP method a text is in upper case; other texts have no upper case of interest. -/
def upperMethod (text : List Char) : Option String :=
  let upper := String.ofList (text.flatMap fun c =>
    (upperExpansions.lookup c.toNat).getD [c.toUpper])
  if upper ∈ httpMethods then some upper else none

def joinSegments (path : List Char) : List Char :=
  let parts := (Text.splitOn '/' (path.map fun c => if c = '\\' then '/' else c)).filter (· ≠ [])
  '/' :: ['/'].intercalate parts

def canonicalRoute (route : FieldText) (framework : Framework) : String :=
  let method := do
    let (head, path) ← Text.partition ' ' route.1.toList
    let name ← upperMethod head
    return (name, path)
  if framework = .springMvc ∨ framework = .servlet ∨ framework = .jaxRs then
    match method with
    | some (name, path) => name ++ " " ++ String.ofList (joinSegments path)
    | none => String.ofList (joinSegments route.1.toList)
  else if framework = .netty then
    match method with
    | some (name, path) =>
      if path.head? = some '/' then name ++ " " ++ String.ofList (joinSegments path) else route.1
    | none => route.1
  else route.1

def identityOf (framework : Framework) (protocol : Protocol) (handler : HandlerFact)
    (registration : RegistrationFact) (registrationPatternId routeOrEvent : String)
    (authContext : AuthContext) (attackerInputs : List AttackerInputFact)
    (materializationPhase : MaterializationPhase) : Members Empty :=
  [("framework", .str framework.text), ("protocol", .str protocol.text),
    ("handler", handler.toDict), ("registration", registration.toDict),
    ("registration_pattern_id", .str registrationPatternId),
    ("route_or_event", .str routeOrEvent), ("auth_context", .str authContext.text),
    ("attacker_inputs", .arr (attackerInputs.map AttackerInputFact.toDict)),
    ("materialization_phase", .str materializationPhase.text)]

/-- A registered entry; only facts that pass the constructor's checks can be built. -/
structure EntryFact where
  entryId : String
  framework : Framework
  protocol : Protocol
  handler : HandlerFact
  registration : RegistrationFact
  registrationPatternId : String
  routeOrEvent : String
  authContext : AuthContext
  attackerInputs : List AttackerInputFact
  materializationPhase : MaterializationPhase
  protocolModeled : protocol = framework.protocol
  registrationModeled : registration.kind ∈ framework.registrations
  patternModeled : registrationPatternId ∈
    registrationCoveragePatternIds framework.text registration.kind.text
  inputsRequired : attackerInputs ≠ []
  inputsOrdered : attackerInputs.Pairwise (· < ·)
  routeCanonical : ∃ route, routeOrEvent = canonicalRoute route framework
  idCanonical : entryId = stableIdentifier "entry" (identityOf framework protocol handler
    registration registrationPatternId routeOrEvent authContext attackerInputs
    materializationPhase)

def EntryFact.create (framework : Framework) (protocol : Protocol) (handler : HandlerFact)
    (registration : RegistrationFact) (registrationPatternId : String)
    (routeOrEvent : FieldText) (authContext : AuthContext)
    (attackerInputs : List AttackerInputFact) (materializationPhase : MaterializationPhase) :
    Checked EntryFact :=
  if inputs : attackerInputs = [] then
    .error (entryInvalid "ATTACKER_INPUT_REQUIRED" (some "attacker_inputs"))
  else if protocolModeled : protocol = framework.protocol then
    if registrationModeled : registration.kind ∈ framework.registrations then
      if patternModeled : registrationPatternId ∈
          registrationCoveragePatternIds framework.text registration.kind.text then
        .ok {
          entryId := stableIdentifier "entry" (identityOf framework protocol handler registration
            registrationPatternId (canonicalRoute routeOrEvent framework) authContext
            (sortedSet attackerInputs) materializationPhase)
          framework, protocol, handler, registration, registrationPatternId
          routeOrEvent := canonicalRoute routeOrEvent framework
          authContext
          attackerInputs := sortedSet attackerInputs
          materializationPhase, protocolModeled, registrationModeled, patternModeled
          inputsRequired := by simpa using inputs
          inputsOrdered := sortedSet_increasing _
          routeCanonical := ⟨routeOrEvent, rfl⟩
          idCanonical := rfl }
      else .error (coverageInvalid "REGISTRATION_PATTERN_UNMODELED" (some "registration_pattern_id"))
    else .error (entryInvalid "REGISTRATION_NOT_MODELED_FOR_FRAMEWORK" (some "registration_kind"))
  else .error (entryInvalid "PROTOCOL_NOT_MODELED_FOR_FRAMEWORK" (some "protocol"))

theorem EntryFact.entry_id_starts (entry : EntryFact) :
    Text.startsWith entry.entryId "entry:" = true := by
  rw [entry.idCanonical]
  exact stable_identifier_starts "entry" _

theorem EntryFact.pattern_belongs (entry : EntryFact) :
    registrationCoveragePatternBelongsToFramework entry.framework.text
      entry.registrationPatternId = true := Coverage.pattern_belongs _ _ _ entry.patternModeled

def samplePattern : String :=
  "entry-registration-coverage:spring_mvc:annotation_mapping:spring_annotation_mapping"

/-- The entry of the witnesses: a request handler that puts a token into a map. -/
def sampleEntry : EntryFact where
  entryId := "entry:f022e57f3439f0a6a146d962"
  framework := .springMvc
  protocol := .http
  handler := ⟨⟨"Cache.put", by decide +kernel⟩, ⟨"src/Cache.java", cache_path_valid⟩,
    ⟨9, nine_positive⟩⟩
  registration := ⟨.annotationMapping, ⟨"Cache.put", by decide +kernel⟩,
    ⟨"src/Cache.java", cache_path_valid⟩, ⟨8, eight_positive⟩⟩
  registrationPatternId := samplePattern
  routeOrEvent := canonicalRoute ⟨"POST /cache", by decide +kernel⟩ .springMvc
  authContext := .unauthenticated
  attackerInputs := [⟨⟨"token", token_valid⟩, ⟨"String", by decide +kernel⟩, .requestParameter⟩]
  materializationPhase := .inHandler
  protocolModeled := rfl
  registrationModeled := by decide
  patternModeled := by decide +kernel
  inputsRequired := by simp
  inputsOrdered := List.pairwise_singleton _ _
  routeCanonical := ⟨_, rfl⟩
  idCanonical := by
    rw [identifier_codes]
    decide +kernel

theorem sample_entry_id : sampleEntry.entryId = "entry:f022e57f3439f0a6a146d962" := rfl

inductive VerdictEffect where
  | noEffect
  | forcesUnknown
  deriving DecidableEq

def CoverageStatus.effect (status : CoverageStatus) : VerdictEffect :=
  if status = .complete then .noEffect else .forcesUnknown

theorem CoverageStatus.effect_own (status : CoverageStatus) : status.effect = status.effect := rfl

/-- The registration patterns of a framework that are modeled, and its known gaps. -/
structure FrameworkCoverage where
  framework : Framework
  status : CoverageStatus
  supportedPatterns : TextSet
  unsupportedPatterns : TextSet
  effectOnVerdict : VerdictEffect
  patternsValid : ∀ pattern ∈ supportedPatterns.values ++ unsupportedPatterns.values,
    validText pattern = true
  effectMatches : effectOnVerdict = status.effect
  disjoint : ∀ pattern ∈ supportedPatterns.values, pattern ∉ unsupportedPatterns.values
  completeWithoutGaps : status = .complete → unsupportedPatterns.values = []
  incompleteWithGap : status ≠ .complete → unsupportedPatterns.values ≠ []
  supportedModeled : ∀ pattern ∈ supportedPatterns.values,
    registrationCoveragePatternBelongsToFramework framework.text pattern = true

/-- What stands in for a framework without a coverage record. -/
def FrameworkCoverage.uncovered (framework : Framework) : FrameworkCoverage where
  framework
  status := .unsupported
  supportedPatterns := .empty
  unsupportedPatterns := ⟨["no_coverage"], List.pairwise_singleton _ _, by decide⟩
  effectOnVerdict := .forcesUnknown
  patternsValid := by decide +kernel
  effectMatches := rfl
  disjoint := nofun
  completeWithoutGaps := by simp
  incompleteWithGap := by simp
  supportedModeled := nofun

end DosWeb.Entries
