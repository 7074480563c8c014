import DosWeb.Llm.CacheEntries

/-!
The requests to the provider: how a prompt becomes a body, and the scan that a body has to pass
before it is sent.
-/

namespace DosWeb.Llm

open Library Library.JsonValue Library.JsonText Library.JsonSize
open Llm.Cache (supportedModels)

def maxLlmRetries : Int := 5

def maxLlmTimeoutSeconds : Int := 300

def maxRequestBytes : Nat := 131072

def maxRequestScanDepth : Nat := 16

def maxRequestScanNodes : Nat := 8192

def requestInvalid (message : String) : Raised := .analyzer ⟨"LLM_REQUEST_INVALID", message, []⟩

section

/-- What a call reads of the configuration; a key that is missing is an empty one. -/
structure LlmConfig (F : Type) where
  model : String
  apiKey : String
  timeoutSeconds : Int
  maxRetries : Int
  temperature : Int ⊕ F

variable {F : Type} [FloatText F]

def temperatureJson : Int ⊕ F → Json F
  | .inl value => .int value
  | .inr value => .float value

/-- The bounds on a configuration; of a float they are any predicate on it. -/
def validateRuntimeConfig (floatBounded : F → Bool) (config : LlmConfig F) : Checked Unit := do
  require (Text.strip config.apiKey.toList ≠ []) (.analyzer ⟨"CONFIG_MISSING_DEEPSEEK_API_KEY",
    "Provider API key must be set in the environment or config/local_secrets.json.", []⟩)
  require (supportedModels.contains config.model && 1 ≤ config.timeoutSeconds &&
      config.timeoutSeconds ≤ maxLlmTimeoutSeconds && 1 ≤ config.maxRetries &&
      config.maxRetries ≤ maxLlmRetries &&
      match config.temperature with
      | .inl value => 0 ≤ value && value ≤ 2
      | .inr value => FloatText.finite value && floatBounded value)
    (.analyzer ⟨"CONFIG_INVALID_VALUE", "LLM configuration contains an invalid bounded value.", []⟩)

/-- The request for a growth contract in reply to one system and one user prompt. -/
def responsesRequest (schema : Json F) (model : String) (messages : List (String × String))
    (temperature : Int ⊕ F) : Checked (Json F) :=
  match messages with
  | [(system, instructions), (user, userText)] => do
      require (system = "system" && user = "user")
        (requestInvalid "Responses request prompt roles are invalid.")
      require (instructions ≠ "" && userText ≠ "")
        (requestInvalid "Responses request prompt content is invalid.")
      return .obj [("model", .str model), ("instructions", .str instructions),
        ("input", .arr [.obj [("role", .str "user"), ("content", .arr [.obj [
          ("type", .str "input_text"), ("text", .str userText)]])]]),
        ("temperature", temperatureJson temperature),
        ("text", .obj [("format", .obj [("type", .str "json_schema"),
          ("name", .str "growth_contract"), ("strict", .bool true), ("schema", schema)])]),
        ("store", .bool false), ("stream", .bool false)]
  | _ => .error (requestInvalid
      "Responses request requires exactly one system and one user prompt.")

def encodeRequest (payload : Json F) : Checked String :=
  let body := String.ofList (render payload)
  if maxRequestBytes < byteLength body then
    .error (requestInvalid "Serialized LLM request exceeds the safe size limit.")
  else .ok body

end

variable {F : Type} [FloatText F]

mutual

/-- The keys and texts of a value as they are met: an object's keys, then its values from the last
to the first. -/
def metStrings : Json F → List String
  | .str text => [text]
  | .arr items => metItems items
  | .obj members => members.map Prod.fst ++ metMembers members
  | _ => []

def metItems : List (Json F) → List String
  | [] => []
  | item :: items => metStrings item ++ metItems items

def metMembers : Members F → List String
  | [] => []
  | (_, value) :: members => metMembers members ++ metStrings value

end

/-- The keys and texts of a value within the bounds of a request. -/
def scannedStrings (value : Json F) : Option (List String) :=
  if (spread 0 value).length ≤ maxRequestScanNodes &&
      (spread 0 value).all fun node => node.2 ≤ maxRequestScanDepth then
    some (metStrings value)
  else none

/-- How the scan reads a text. The patterns for credentials and the readings of Java source are
any functions of a text. -/
structure RequestScreen where
  /-- Whether reading a text as JSON runs out of the interpreter's stack. -/
  exhausts : String → Bool
  sensitiveJavaAssignment : String → Bool
  sensitiveMethodCall : String → Bool
  /-- Whether a comment holds a credential assignment. -/
  commentAssignment : String → Bool
  normalizeSourceForScan : String → String
  javaDecodedLiteralValues : String → List String
  /-- A text without its comments and the arguments of its annotations. -/
  withoutComments : String → String
  credentialPatterns : List (String × (String → Bool))

def secretDetected (patternId : String) : Raised :=
  .analyzer ⟨"LLM_BOUNDED_SLICE_SECRET_DETECTED", "Bounded slice credential scan failed.",
    [("pattern_id", .str patternId)]⟩

def holds (text part : String) : Bool := decide (part.toList <:+: text.toList)

variable (F) in
/-- The texts of a request with those of the JSON in them. -/
def requestStrings (screen : RequestScreen) (body : String) : Checked (List String) := do
  if screen.exhausts body then .error (requestInvalid "Serialized LLM request is invalid.")
  match (loads maxIntegerDigits body.toList : Option (Json F)) with
  | none => .error (requestInvalid "Serialized LLM request is invalid.")
  | some decoded => do
      let unsafe_ := requestInvalid "Serialized LLM request exceeds safe structural limits."
      let strings ← match scannedStrings decoded with
        | some strings => Except.ok strings
        | none => .error unsafe_
      let nested ← strings.mapM fun item =>
        if screen.exhausts item then .error unsafe_
        else
          match (loads maxIntegerDigits item.toList : Option (Json F)) with
          | none => Except.ok []
          | some inner =>
            match scannedStrings inner with
            | some more => .ok more
            | none => .error unsafe_
      return strings ++ nested.flatten

variable (F) in
def scanTransmittedRequest (screen : RequestScreen) (configuredApiKey : String) (body : String) :
    Checked Unit := do
  let strings ← requestStrings F screen body
  require (!strings.any screen.sensitiveJavaAssignment) (secretDetected "credential_assignment")
  require (!strings.any screen.sensitiveMethodCall) (secretDetected "credential_method_call")
  require (!strings.any screen.commentAssignment) (secretDetected "credential_assignment_comment")
  let content := "\n".intercalate (body :: (strings ++ strings.map screen.normalizeSourceForScan ++
    strings.flatMap screen.javaDecodedLiteralValues))
  let credentialContent := "\n".intercalate (strings.map screen.withoutComments)
  require (configuredApiKey = "" || !holds content configuredApiKey)
    (secretDetected "configured_credential")
  screen.credentialPatterns.forM fun pattern =>
    let target := if pattern.1 = "credential_assignment" then credentialContent else content
    require (!pattern.2 target) (secretDetected pattern.1)

end DosWeb.Llm
