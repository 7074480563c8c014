import DosWeb.Entries.Canonical
import DosWeb.Library.JsonRecord
import DosWeb.Library.JsonRoundTrip

/-!
Entry facts read from raw query rows and from the records of an earlier stage.
-/

namespace DosWeb.Entries

open Library.JsonValue Library.OrderedSet Identifiers Entries.Coverage
open Library.JsonRecord (isText)

def frameworks : List Framework := [.springMvc, .servlet, .netty, .mqtt, .jaxRs, .grpc]

def protocols : List Protocol := [.http, .tcp, .mqtt, .grpc]

def authContexts : List AuthContext := [.unauthenticated, .lowPrivilege, .privileged, .unknown]

def materializationPhases : List MaterializationPhase :=
  [.beforeHandler, .inHandler, .streaming, .unknown]

def inputKinds : List InputKind :=
  [.requestBody, .requestParameter, .modelAttribute, .pathParameter, .header, .messagePayload,
    .stream, .unknown]

def registrationKinds : List RegistrationKind :=
  [.annotationMapping, .staticRegistration, .pipelineRegistration, .subscriptionRegistration,
    .brokerRegistration]

def maxRecordInputs : Nat := 64

def rawFields : List String :=
  ["framework", "protocol", "handler_fqn", "handler_file", "handler_start_line",
    "registration_kind", "registration_fqn", "registration_file", "registration_start_line",
    "route_or_event", "auth_context", "attacker_input_name", "attacker_input_type",
    "attacker_input_kind", "materialization_phase", "coverage_status", "coverage_note"]

def provenanceFields : List String :=
  ["query_name", "query_sha256", "handler_location", "registration_location"]

def recordFields : List String :=
  ["entry_id", "framework", "protocol", "handler", "registration", "registration_pattern_id",
    "route_or_event", "auth_context", "attacker_inputs", "materialization_phase"]

variable {F : Type}

def item (key : String) (members : Members F) : Json F := (members.lookup key).getD .null

def hasFields (members : Members F) (expected : List String) : Bool :=
  (members.map Prod.fst ⊆ expected) && (expected ⊆ members.map Prod.fst)

def stringOf (value : Json F) (field : String) : Checked FieldText :=
  match value with
  | .str text => nonemptyString text field
  | _ => .error (entryInvalid "STRING_REQUIRED" (some field))

theorem line_positive (line : Int) (positive : 0 < line) : 0 < line.toNat := by
  omega

def positiveLine (value : Json F) (field : String) : Checked PositiveLine :=
  match value with
  | .int line =>
    if positive : 0 < line then .ok ⟨line.toNat, line_positive line positive⟩
    else .error (entryInvalid "POSITIVE_LINE_REQUIRED" (some field))
  | _ => .error (entryInvalid "POSITIVE_LINE_REQUIRED" (some field))

def enumOf {α : Type} (members : List α) (text : α → String) (value : Json F) (field : String) :
    Checked α := do
  let valid ← stringOf value field
  match members.find? fun member => text member = valid.1 with
  | some member => .ok member
  | none => .error (entryInvalid "ENUM_INVALID" (some field))

def sourcePath (value : Json F) (field : String) : Checked SourcePath := do
  let text ← stringOf value field
  match found : normalPath text.1.toList with
  | some normal =>
    .ok ⟨String.ofList normal, normal_path_stands text normal found⟩
  | none => .error (entryInvalid "PATH_INVALID" (some field))

def HandlerFact.members (fact : HandlerFact) : Members F :=
  [("callable", .str fact.callable.1), ("file", .str fact.file.1),
    ("start_line", .int fact.startLine.1)]

def RegistrationFact.members (fact : RegistrationFact) : Members F :=
  [("kind", .str fact.kind.text), ("callable", .str fact.callable.1), ("file", .str fact.file.1),
    ("start_line", .int fact.startLine.1)]

def AttackerInputFact.members (fact : AttackerInputFact) : Members F :=
  [("name", .str fact.name.1), ("type", .str fact.type.1), ("kind", .str fact.kind.text)]

def EntryFact.members (entry : EntryFact) : Members F :=
  [("entry_id", .str entry.entryId), ("framework", .str entry.framework.text),
    ("protocol", .str entry.protocol.text), ("handler", .obj entry.handler.members),
    ("registration", .obj entry.registration.members),
    ("registration_pattern_id", .str entry.registrationPatternId),
    ("route_or_event", .str entry.routeOrEvent), ("auth_context", .str entry.authContext.text),
    ("attacker_inputs", .arr (entry.attackerInputs.map fun input => .obj input.members)),
    ("materialization_phase", .str entry.materializationPhase.text)]

def EntryFact.record (entry : EntryFact) : Json F := .obj entry.members

def EntryFact.semanticIdentity (entry : EntryFact) : Members Empty :=
  identityOf entry.framework entry.protocol entry.handler entry.registration
    entry.registrationPatternId entry.routeOrEvent entry.authContext entry.attackerInputs
    entry.materializationPhase

/-- The lines of both facts can be written in base ten. -/
def linesPrintable (handler : HandlerFact) (registration : RegistrationFact) : Bool :=
  (toString handler.startLine.1).length ≤ maxIntegerDigits &&
    (toString registration.startLine.1).length ≤ maxIntegerDigits

def unprintable : Raised :=
  .valueError "Exceeds the limit (4300 digits) for integer string conversion"

def EntryFact.construct (entryId : String) (framework : Framework) (protocol : Protocol)
    (handler : HandlerFact) (registration : RegistrationFact)
    (registrationPatternId routeOrEvent : Json F) (authContext : AuthContext)
    (attackerInputs : List AttackerInputFact) (materializationPhase : MaterializationPhase) :
    Checked EntryFact := do
  require (registration.kind ∈ framework.registrations)
    (entryInvalid "REGISTRATION_NOT_MODELED_FOR_FRAMEWORK" (some "registration_kind"))
  let patternId ← stringOf registrationPatternId "registration_pattern_id"
  require (patternId.1 ∈ registrationCoveragePatternIds framework.text registration.kind.text)
    (coverageInvalid "REGISTRATION_PATTERN_UNMODELED" (some "registration_pattern_id"))
  require (attackerInputs ≠ [])
    (entryInvalid "ATTACKER_INPUT_REQUIRED" (some "attacker_inputs"))
  let route ← stringOf routeOrEvent "route_or_event"
  require (linesPrintable handler registration) unprintable
  let entry ← EntryFact.create framework protocol handler registration patternId.1 route authContext
    attackerInputs materializationPhase
  require (entryId = entry.entryId) (entryInvalid "ENTRY_ID_MISMATCH" (some "entry_id"))
  return entry

def protocolFor (framework : Framework) (protocol : Protocol) : Checked Unit :=
  require (protocol = framework.protocol)
    (entryInvalid "PROTOCOL_NOT_MODELED_FOR_FRAMEWORK" (some "protocol"))

/-- The least key that is missing, or else the least that is neither expected nor optional. -/
def wrongField (fields expected optional : List String) : Option String :=
  let missing := expected.filter fun field => field ∉ fields
  let extra := fields.filter fun field => field ∉ expected ++ optional
  (sortedSet (if missing = [] then extra else missing)).head?

def EntryFact.fromRaw (raw : Members F) : Checked EntryFact := do
  let wrong := wrongField (raw.map Prod.fst) rawFields provenanceFields
  require (wrong = none) (entryInvalid "ROW_FIELDS_INVALID" wrong)
  require (!isText "dynamic_unresolved" (item "registration_kind" raw))
    (entryInvalid "UNRESOLVED_REGISTRATION" (some "registration_kind"))
  require (isText "complete" (item "coverage_status" raw))
    (entryInvalid "ENTRY_COVERAGE_INCOMPLETE" (some "coverage_status"))
  let framework ← enumOf frameworks Framework.text (item "framework" raw) "framework"
  let protocol ← enumOf protocols Protocol.text (item "protocol" raw) "protocol"
  protocolFor framework protocol
  let handlerCallable ← stringOf (item "handler_fqn" raw) "handler_fqn"
  let handlerFile ← sourcePath (item "handler_file" raw) "handler_file"
  let handlerLine ← positiveLine (item "handler_start_line" raw) "handler_start_line"
  let registrationKind ← stringOf (item "registration_kind" raw) "registration_kind"
  let registrationCallable ← stringOf (item "registration_fqn" raw) "registration_fqn"
  let registrationFile ← sourcePath (item "registration_file" raw) "registration_file"
  let registrationLine ← positiveLine (item "registration_start_line" raw)
    "registration_start_line"
  let kind ← enumOf registrationKinds RegistrationKind.text (Json.str registrationKind.1 : Json F)
    "registration.kind"
  let handler := ⟨handlerCallable, handlerFile, handlerLine⟩
  let registration := ⟨kind, registrationCallable, registrationFile, registrationLine⟩
  require (kind ∈ framework.registrations)
    (entryInvalid "REGISTRATION_NOT_MODELED_FOR_FRAMEWORK" (some "registration_kind"))
  let coverageNote ← stringOf (item "coverage_note" raw) "coverage_note"
  match registrationCoveragePatternId framework.text kind.text coverageNote.1 with
  | none => .error (coverageInvalid "REGISTRATION_PATTERN_UNMODELED" (some "coverage_note"))
  | some patternId =>
    let name ← stringOf (item "attacker_input_name" raw) "attacker_input_name"
    let type ← stringOf (item "attacker_input_type" raw) "attacker_input_type"
    let inputKind ← stringOf (item "attacker_input_kind" raw) "attacker_input_kind"
    let inputKind ← enumOf inputKinds InputKind.text (Json.str inputKind.1 : Json F)
      "attacker_input.kind"
    let route ← stringOf (item "route_or_event" raw) "route_or_event"
    let authContext ← enumOf authContexts AuthContext.text (item "auth_context" raw)
      "auth_context"
    let phase ← enumOf materializationPhases MaterializationPhase.text
      (item "materialization_phase" raw) "materialization_phase"
    let inputs : List AttackerInputFact := [⟨name, type, inputKind⟩]
    require (linesPrintable handler registration) unprintable
    let entryId := stableIdentifier "entry" (identityOf framework protocol handler registration
      patternId (canonicalRoute route framework) authContext inputs phase)
    EntryFact.construct entryId framework protocol handler registration
      (Json.str patternId : Json F) (Json.str (canonicalRoute route framework)) authContext
      inputs phase

def inputFromDict (raw : Json F) : Checked AttackerInputFact :=
  match raw with
  | .obj members => do
      require (hasFields members ["name", "type", "kind"])
        (entryInvalid "NESTED_FACT_INVALID" (some "attacker_inputs"))
      let name ← stringOf (item "name" members) "attacker_input.name"
      let type ← stringOf (item "type" members) "attacker_input.type"
      let kind ← enumOf inputKinds InputKind.text (item "kind" members) "attacker_input.kind"
      return ⟨name, type, kind⟩
  | _ => .error (entryInvalid "NESTED_FACT_INVALID" (some "attacker_inputs"))

/-- The members of a nested record that has exactly the expected keys. -/
def nestedMembers (raw : Json F) (expected : List String) (field : String) : Checked (Members F) :=
  match raw with
  | .obj members => do
      require (hasFields members expected) (entryInvalid "NESTED_FACT_INVALID" (some field))
      return members
  | _ => .error (entryInvalid "NESTED_FACT_INVALID" (some field))

def handlerFromDict (members : Members F) : Checked HandlerFact := do
  let callable ← stringOf (item "callable" members) "handler.callable"
  let file ← sourcePath (item "file" members) "handler.file"
  let startLine ← positiveLine (item "start_line" members) "handler.start_line"
  return ⟨callable, file, startLine⟩

def registrationFromDict (members : Members F) : Checked RegistrationFact := do
  let kind ← enumOf registrationKinds RegistrationKind.text (item "kind" members)
    "registration.kind"
  let callable ← stringOf (item "callable" members) "registration.callable"
  let file ← sourcePath (item "file" members) "registration.file"
  let startLine ← positiveLine (item "start_line" members) "registration.start_line"
  return ⟨kind, callable, file, startLine⟩

/-- The attacker inputs of a record, at least one and at most `maxRecordInputs`. -/
def inputsFromDict (raw : Json F) : Checked (List AttackerInputFact) :=
  match raw with
  | .arr items =>
    if items = [] ∨ maxRecordInputs < items.length then
      .error (entryInvalid "ATTACKER_INPUT_REQUIRED" (some "attacker_inputs"))
    else items.mapM inputFromDict
  | _ => .error (entryInvalid "ATTACKER_INPUT_REQUIRED" (some "attacker_inputs"))

def EntryFact.fromDict (raw : Json F) : Checked EntryFact :=
  match raw with
  | .obj members => do
      require (hasFields members recordFields) (entryInvalid "RECORD_FIELDS_INVALID")
      let handlerMembers ← nestedMembers (item "handler" members)
        ["callable", "file", "start_line"] "handler"
      let registrationMembers ← nestedMembers (item "registration" members)
        ["kind", "callable", "file", "start_line"] "registration"
      let inputs ← inputsFromDict (item "attacker_inputs" members)
      let entryId ← stringOf (item "entry_id" members) "entry_id"
      let handler ← handlerFromDict handlerMembers
      let registration ← registrationFromDict registrationMembers
      let framework ← enumOf frameworks Framework.text (item "framework" members) "framework"
      let protocol ← enumOf protocols Protocol.text (item "protocol" members) "protocol"
      let authContext ← enumOf authContexts AuthContext.text (item "auth_context" members)
        "auth_context"
      protocolFor framework protocol
      let phase ← enumOf materializationPhases MaterializationPhase.text
        (item "materialization_phase" members) "materialization_phase"
      EntryFact.construct entryId.1 framework protocol handler registration
        (item "registration_pattern_id" members) (item "route_or_event" members) authContext
        inputs phase
  | _ => .error (entryInvalid "RECORD_FIELDS_INVALID")

end DosWeb.Entries
