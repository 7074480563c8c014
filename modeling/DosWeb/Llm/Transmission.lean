import DosWeb.Library.Steps
import DosWeb.Llm.Flights
import DosWeb.Llm.Prompts
import DosWeb.Llm.Requests

/-!
One call of `classify_growth` that owns its flight: what it scans, what it posts and what it hands
to the cache, whatever the provider and the cache answer.
-/

namespace DosWeb.Llm

open Library.JsonValue Library.JsonText Library.Steps Growth

section

inductive Transmission where
  | answered (reply : ProviderReply)
  | refused (status : Int)
  /-- A failure of the network or a missed deadline. -/
  | network (transient : Bool)
  | undecodable
  | failed (raised : Raised)

def postOnce : Transmission → Checked ProviderReply
  | .answered reply => .ok reply
  | .refused status =>
    if status = 401 ∨ status = 403 then
      .error (.analyzer ⟨"LLM_AUTHENTICATION_FAILED", "Remote LLM authentication failed.", []⟩)
    else if status = 429 ∨ (500 ≤ status ∧ status ≤ 599) then
      .error (.analyzer ⟨"LLM_RETRYABLE_HTTP", "Remote LLM returned a retryable HTTP response.",
        [("status", .int status)]⟩)
    else
      .error (.analyzer ⟨"LLM_RESPONSE_INVALID",
        "Remote LLM returned an unsuccessful HTTP response.", [("status", .int status)]⟩)
  | .network true =>
    .error (.analyzer ⟨"LLM_NETWORK_RETRYABLE", "Remote LLM request failed transiently.", []⟩)
  | .network false =>
    .error (.analyzer ⟨"LLM_NETWORK_FAILED", "Remote LLM request failed permanently.", []⟩)
  | .undecodable =>
    .error (.analyzer ⟨"LLM_RESPONSE_INVALID", "Remote LLM response was not UTF-8 JSON.", []⟩)
  | .failed raised => .error raised

/-- The details of a failure after which the request is sent again. -/
def retryable : Raised → Option (Members Empty)
  | .analyzer error =>
    if ["LLM_RETRYABLE_HTTP", "LLM_NETWORK_RETRYABLE"].contains error.code then
      some error.details
    else none
  | _ => none

/-- What a call does to the outside: a scan that a body passes, a request and its outcome, and a
snapshot handed to the cache. -/
inductive Event where
  | scanned (body : String)
  | posted (variant : PromptVariant) (body : String) (outcome : Checked ProviderReply)
  | stored (snapshot : GrowthCacheSnapshot)

def Event.isPost : Event → Bool
  | .posted _ _ _ => true
  | _ => false

abbrev Calling := EStateM Raised (List Event)

def record (event : Event) : Calling Unit := modify fun events => events ++ [event]

def retriesExhausted (details : Members Empty) : Raised := .analyzer ⟨"LLM_RETRIES_EXHAUSTED",
    "The remote LLM did not return a successful response after retrying.", details⟩

variable (provider : Nat → Transmission) (apiKey : String)

/-- Posts a body, at most so many times more; the details are those of the failure before. The
pauses between are left out. -/
def postWithRetries (variant : PromptVariant) (body : String) :
    Nat → Members Empty → Calling ProviderReply
  | 0, details => throw (retriesExhausted (redactMapping apiKey details))
  | attempts + 1, _ => do
      let events ← get
      let outcome := postOnce (provider (events.countP Event.isPost))
      record (.posted variant body outcome)
      match outcome with
      | .ok reply => return reply
      | .error raised =>
        match retryable raised with
        | some details => postWithRetries variant body attempts details
        | none => throw raised

end

variable {F : Type} [FloatText F]

/-- A client with the constants and patterns it works with. -/
structure Client (F : Type) where
  config : LlmConfig F
  floatBounded : F → Bool
  texts : PromptTexts
  schema : Json F
  requestScreen : RequestScreen
  screen : ReplyScreen

/-- What a call meets: the gate for remote calls, the cache at each point, and the provider's
answers to one request after the other. -/
structure Surroundings where
  remoteGate : Checked Unit
  cached : Checked (Option GrowthCacheSnapshot)
  available : Checked Bool
  rechecked : Checked (Option GrowthCacheSnapshot)
  authenticated : Checked Bool
  reserved : Checked Unit
  provider : Nat → Transmission
  published : Checked Bool

variable (client : Client F) (slice : PromptSlice)

def Client.call : GrowthCall :=
  ⟨client.config.model, slice.boundedSlice, slice.sourceExcerpts.map AttestedExcerpt.content⟩

theorem payload_built (texts : PromptTexts) : (buildProviderPayload texts slice).isSome = true ∧
      (buildGrowthCorrectionPayload texts slice).isSome = true := by
  obtain ⟨_, _, payload, correction, -, built, corrected, -⟩ := prompts_total texts slice
  rw [built, corrected]
  exact ⟨rfl, rfl⟩

def Client.payload : PromptVariant → ProviderPayload
  | .initial => (buildProviderPayload client.texts slice).get (payload_built slice client.texts).1
  | .correction =>
    (buildGrowthCorrectionPayload client.texts slice).get (payload_built slice client.texts).2

def Client.requestBody (variant : PromptVariant) : Checked String := do
  let request ← responsesRequest client.schema client.config.model
    (client.payload slice variant).messages client.config.temperature
  encodeRequest request

def scanRequest (body : String) : Calling Unit := do
  fromExcept (scanTransmittedRequest F client.requestScreen client.config.apiKey body)
  record (.scanned body)

/-- The checks that a reply passes before it becomes a contract. -/
def acceptReply (variant : PromptVariant) (reply : ProviderReply) :
    Checked GrowthCacheSnapshot := do
  let response : CanonicalResponse F ← canonicalResponse client.screen (client.call slice) reply
  let contract ← contractOf client.screen (client.call slice) response.semantic
    (client.payload slice variant).factAliasToOriginal
  return ⟨contract, reply.body, variant, response.actualModel, response.requestId⟩

variable (surroundings : Surroundings)

def attemptReply (variant : PromptVariant) (body : String) :
    Calling (Checked GrowthCacheSnapshot) := do
  let reply ← captured (postWithRetries surroundings.provider client.config.apiKey variant body
    client.config.maxRetries.toNat [])
  return reply.bind (acceptReply client slice variant)

/-- The initial prompt, and the correction if its reply is rejected for what can be corrected. -/
def growthReplies (requestBody : String) : Calling GrowthCacheSnapshot := do
  match ← attemptReply client slice surroundings .initial requestBody with
  | .ok snapshot => return snapshot
  | .error raised =>
    if correctable raised then do
      let body ← fromExcept (client.requestBody slice .correction)
      scanRequest client body
      match ← attemptReply client slice surroundings .correction body with
      | .ok snapshot => return snapshot
      | .error raised => throw (terminalFailure raised)
    else throw raised

/-- Hands an accepted snapshot to the cache, unless that has authenticated one of the key. -/
def publish (authenticated : Bool) (snapshot : GrowthCacheSnapshot) : Calling Unit :=
  if authenticated then return ()
  else do
    record (.stored snapshot)
    match surroundings.published with
    | .ok true => return ()
    | _ => throw (.analyzer
        ⟨"LLM_CACHE_WRITE_FAILED", "Could not publish Growth Contract cache entry.", []⟩)

def whereAvailable {α : Type} (available : Bool) (answer : Checked α) (without : α) : Checked α :=
  if available then answer else .ok without

def ownedCall (requestBody : String) : Calling GrowthContract := do
  let available ← fromExcept surroundings.available
  let found ← fromExcept (whereAvailable available surroundings.rechecked none)
  match found with
  | some snapshot => fromExcept (acceptGrowthSnapshot F client.screen (client.call slice) snapshot)
  | none => do
      let authenticated ←
        fromExcept (whereAvailable available surroundings.authenticated false)
      fromExcept surroundings.reserved
      let snapshot ← growthReplies client slice surroundings requestBody
      publish surroundings authenticated snapshot
      fromExcept (acceptGrowthSnapshot F client.screen (client.call slice) snapshot)

def classifyGrowth : Calling GrowthContract := do
  fromExcept (validateRuntimeConfig client.floatBounded client.config)
  let requestBody ← fromExcept (client.requestBody slice .initial)
  scanRequest client requestBody
  fromExcept surroundings.remoteGate
  match ← fromExcept surroundings.cached with
  | some snapshot => fromExcept (acceptGrowthSnapshot F client.screen (client.call slice) snapshot)
  | none => ownedCall client slice surroundings requestBody

end DosWeb.Llm
