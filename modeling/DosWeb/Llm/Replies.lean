import DosWeb.Growth.Contracts
import DosWeb.Library.JsonSize
import Mathlib.Data.List.Infix

/-!
Replies of the provider: the envelope is parsed and scanned, its content becomes a contract,
and what was accepted is accepted again from the stored body.
-/

namespace DosWeb.Llm

open Library Library.JsonValue Library.JsonText Library.JsonSize Growth

deriving instance DecidableEq for GrowthContract

def maxResponseBytes : Nat := 131072

def maxJsonDepth : Nat := 16

def maxJsonNodes : Nat := 256

def maxJsonStringBytes : Nat := 65536

def maxJsonCollection : Nat := 64

def maxRequestIdBytes : Nat := 512

def byteLength (text : String) : Nat := (Text.utf8 text.toList).length

section

variable {F : Type}

def nodeBounded : Json F → Bool
  | .str text => byteLength text ≤ maxJsonStringBytes
  | .arr items => items.length ≤ maxJsonCollection
  | .obj members => members.length ≤ maxJsonCollection
  | _ => true

def jsonBounded (value : Json F) : Bool := (spread 0 value).length ≤ maxJsonNodes &&
    (spread 0 value).all fun node => node.2 ≤ maxJsonDepth && nodeBounded node.1

def allStrings (value : Json F) : List String :=
  (spread 0 value).flatMap fun node =>
    match node.1 with
    | .str text => [text]
    | .obj members => members.map Prod.fst
    | _ => []

def textField (key : String) (value : Json F) : Option String :=
  match field key value with
  | some (.str text) => some text
  | _ => none

end

/-- What a reply is screened by. The patterns for secrets, for personal data and for the texts
of a contract are any predicates on a text. -/
structure ReplyScreen where
  /-- Whether a text is sensitive, with personal data counted or not. -/
  sensitive : Bool → String → Bool
  discloses : String → Bool

/-- One classification: the requested model and the slice, with its excerpts' contents. -/
structure GrowthCall where
  model : String
  boundedSlice : BoundedSlice
  excerpts : List String

structure ProviderReply where
  body : String
  headers : List (String × String)

def responseInvalid : Raised := .analyzer ⟨"LLM_RESPONSE_INVALID",
    "Remote Responses API envelope was malformed, incomplete, or has a mismatched model.", []⟩

def sensitiveContent : Raised :=
  .analyzer ⟨"LLM_RESPONSE_SENSITIVE_CONTENT", "Provider response contains sensitive content.", []⟩

def unreadableContent : Raised := .analyzer ⟨"LLM_RESPONSE_SCHEMA_INVALID",
    "The provider response does not match the contract schema.", []⟩

def responseModelAliases : List (String × List String) :=
  [("grok-4.6", ["grok-4.6", "grok-4.6-build"])]

def modelResponseMatches (requested actual : String) : Bool :=
  ((responseModelAliases.lookup requested).getD [requested]).contains actual

variable {F : Type} [FloatText F] (screen : ReplyScreen) (call : GrowthCall)

def boundedJson (text : String) : Option (Json F) :=
  if byteLength text ≤ maxResponseBytes then
    (loads maxIntegerDigits text.toList).filter jsonBounded
  else none

def isAssistantMessage (item : Json F) : Bool :=
  textField "type" item = some "message" && textField "role" item = some "assistant"

def outputText (part : Json F) : Option String :=
  if textField "type" part = some "output_text" then textField "text" part else none

/-- The text of the single message of a completed envelope, with the model that wrote it. -/
def envelopeContent (envelope : Json F) : Option (String × String) := do
  if textField "status" envelope ≠ some "completed" then none
  let model ← textField "model" envelope
  if modelResponseMatches call.model model = false then none
  match field "output" envelope with
  | some (.arr output) =>
    match output.filter isAssistantMessage with
    | [message] =>
      match field "content" message with
      | some (.arr parts) => do
          let texts ← parts.mapM outputText
          if String.join texts = "" then none else some (String.join texts, model)
      | _ => none
    | _ => none
  | _ => none

/-- The identifier of a reply: a header's, or else the envelope's own. -/
def requestIdOf (headers : List (String × String)) (envelope : Json F) : Option String :=
  match headers.lookup "x-request-id", headers.lookup "request-id", field "id" envelope with
  | some value, _, _ => some value
  | none, some value, _ => some value
  | none, none, some (.str value) => some value
  | none, none, some _ => none
  | none, none, none => some ""

structure EnvelopeParts (F : Type) where
  envelope : Json F
  content : String
  actualModel : String
  requestId : String

def responseContent (reply : ProviderReply) : Checked (EnvelopeParts F) :=
  match (boundedJson reply.body : Option (Json F)) with
  | none => .error responseInvalid
  | some envelope =>
    match envelopeContent call envelope, requestIdOf reply.headers envelope with
    | some (content, model), some requestId =>
      if byteLength requestId ≤ maxRequestIdBytes then .ok ⟨envelope, content, model, requestId⟩
      else .error responseInvalid
    | _, _ => .error responseInvalid

/-- The texts under which a decoded layer is scanned: its rendering, its keys and its texts. -/
def layerTexts (value : Json F) : List String :=
  String.ofList (render (JsonValue.normalize value)) :: allStrings value

/-- A response repeats no long excerpt of the slice and is not sensitive. -/
def responseClean (text : String) : Bool := !screen.sensitive true text &&
    !call.excerpts.any fun excerpt =>
      64 ≤ byteLength excerpt && decide (excerpt.toList <:+: text.toList)

def idClean (requestId : String) : Bool := requestId = "" || !screen.sensitive false requestId

def requestIdChar (c : Char) : Bool := c.isAlphanum || c = '.' || c = '_' || c = ':' || c = '-'

def idShaped (requestId : String) : Bool := requestId.toList.all requestIdChar

structure CanonicalResponse (F : Type) where
  content : String
  semantic : Json F
  actualModel : String
  requestId : String

/-- Parses and scans an envelope and the JSON of its content. -/
def canonicalResponse (reply : ProviderReply) : Checked (CanonicalResponse F) := do
  let parts : EnvelopeParts F ← responseContent call reply
  require ((layerTexts parts.envelope).all fun text => !screen.sensitive false text)
    sensitiveContent
  require (responseClean screen call parts.content) sensitiveContent
  match (boundedJson parts.content : Option (Json F)) with
  | none => .error unreadableContent
  | some semantic => do
      require ((layerTexts semantic).all (responseClean screen call)) sensitiveContent
      require (idClean screen parts.requestId) sensitiveContent
      require (idShaped parts.requestId) responseInvalid
      return ⟨parts.content, semantic, parts.actualModel, parts.requestId⟩

inductive PromptVariant where
  | initial
  | correction
  deriving DecidableEq

/-- The aliases of the facts in the prompt, each with its original. -/
def factAliases (boundedSlice : BoundedSlice) : List (String × String) :=
  (boundedSlice.payload.staticFacts.zipIdx 1).map fun item =>
    ("fact:" ++ toString item.2, item.1.factId)

/-- The correction repeats the initial prompt and keeps its aliases. -/
def payloadAliases : PromptVariant → BoundedSlice → List (String × String)
  | .initial => factAliases
  | .correction => factAliases

structure GrowthCacheSnapshot where
  contract : GrowthContract
  rawResponse : String
  acceptedPromptVariant : PromptVariant
  actualModel : String
  requestId : String

def contractOf (semantic : Json F) (aliases : List (String × String)) : Checked GrowthContract := do
  let provider ← validateProviderGrowthContract screen.discloses semantic
  let contract ← bindProviderGrowthContract provider call.boundedSlice aliases
  validateContractStaticEvidence contract
    (call.boundedSlice.payload.staticFacts.map StaticFact.factId)

def correctableGrowthResponseErrors : List String :=
  ["LLM_RESPONSE_SCHEMA_INVALID", "LLM_RESPONSE_SENSITIVE_CONTENT"]

def correctable : Raised → Bool
  | .analyzer error => correctableGrowthResponseErrors.contains error.code
  | _ => false

/-- What the second failure raises, without the reply's own state. -/
def terminalFailure : Raised → Raised
  | .analyzer error =>
    if error.code = "LLM_RESPONSE_SENSITIVE_CONTENT" then sensitiveContent
    else if error.code = "LLM_RESPONSE_SCHEMA_INVALID" then schemaError
    else .analyzer error
  | raised => raised

variable (F) in
def replaySnapshot (snapshot : GrowthCacheSnapshot) : Checked GrowthContract := do
  let response : CanonicalResponse F ← canonicalResponse screen call ⟨snapshot.rawResponse, []⟩
  require (idClean screen snapshot.requestId) sensitiveContent
  require (response.actualModel = snapshot.actualModel) (.analyzer ⟨"LLM_RESPONSE_INVALID",
    "Cached response model does not match its typed snapshot.", []⟩)
  let contract ← contractOf screen call response.semantic
    (payloadAliases .initial call.boundedSlice)
  require (contract = snapshot.contract) (.analyzer ⟨"LLM_RESPONSE_SCHEMA_INVALID",
    "Cached response does not match its typed Growth Contract.", []⟩)
  return contract

def rejection : Raised → Raised
  | .analyzer error =>
    let message :=
      if error.code = "LLM_RESPONSE_SENSITIVE_CONTENT" then
        "Provider response contains sensitive content."
      else if error.code = "LLM_RESPONSE_SCHEMA_INVALID" then
        "Cached response does not match its typed Growth Contract."
      else "Cached Responses API envelope is invalid."
    .analyzer ⟨error.code, message, []⟩
  | raised => raised

variable (F) in
/-- Accepts a stored snapshot again; its envelope comes without headers. -/
def acceptGrowthSnapshot (snapshot : GrowthCacheSnapshot) : Checked GrowthContract :=
  match replaySnapshot F screen call snapshot with
  | .ok contract => .ok contract
  | .error raised => .error (rejection raised)

end DosWeb.Llm
