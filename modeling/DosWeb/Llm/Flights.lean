import DosWeb.Llm.Replies

/-!
The concurrent calls of `classify_growth` in one process. A call that finds no flight of its cache
key owns a new one and finishes it; the calls that find one wait and are told its outcome. What a
call does by itself may end in any way that its code allows.
-/

namespace DosWeb.Llm

open Library.Text Growth
open Function (update)

def isKeyChar (c : Char) : Bool := c.isAlphanum || c = '_' || c = '-'

/-- Replaces every secret key of a text, given whether a key character comes before it. -/
def redactKeys : Bool → List Char → List Char
  | false, 's' :: 'k' :: '-' :: c :: rest =>
    if isKeyChar c then "[REDACTED]".toList ++ redactKeys true (rest.dropWhile isKeyChar)
    else 's' :: redactKeys true ('k' :: '-' :: c :: rest)
  | _, c :: rest => c :: redactKeys (isKeyChar c) rest
  | _, [] => []
termination_by _ text => text.length
decreasing_by
  · have shorter := (rest.dropWhile_suffix isKeyChar).length_le
    simp only [List.length_cons]
    omega
  all_goals simp

def redactText (apiKey : String) (authorization : Bool) (text : String) : String :=
  let shown :=
    if authorization then "[REDACTED]"
    else if apiKey = "" then text
    else text.replace apiKey "[REDACTED]"
  String.ofList (redactKeys false shown.toList)

def namesAuthorization (key : String) : Bool := lowerAscii key = "authorization"

mutual

def redact (apiKey : String) (authorization : Bool) : PlainJson → PlainJson
  | .str text => .str (redactText apiKey authorization text)
  | .arr items => .arr (redactItems apiKey authorization items)
  | .obj members => .obj (redactMembers apiKey authorization members)
  | value => value

def redactItems (apiKey : String) (authorization : Bool) : List PlainJson → List PlainJson
  | [] => []
  | item :: items => redact apiKey authorization item :: redactItems apiKey authorization items

def redactMembers (apiKey : String) (authorization : Bool) :
    List (String × PlainJson) → List (String × PlainJson)
  | [] => []
  | (key, value) :: members =>
    (key, redact apiKey (authorization || namesAuthorization key) value) ::
      redactMembers apiKey authorization members

end

def redactMapping (apiKey : String) (details : List (String × PlainJson)) :
    List (String × PlainJson) :=
  details.map fun member =>
    (member.1, redact apiKey (namesAuthorization member.1) member.2)

/-- An exception: one that the analyzer's own functions raise, or any other. -/
inductive Thrown where
  | known (raised : Raised)
  | other

def Thrown.correctable : Thrown → Bool
  | .known raised => Llm.correctable raised
  | .other => false

def shareableFailures : List String :=
  ["LLM_RESPONSE_INVALID", "LLM_RESPONSE_SCHEMA_INVALID", "LLM_RESPONSE_SENSITIVE_CONTENT"]

def cacheWriteFailed : Thrown := .known (.analyzer
    ⟨"LLM_CACHE_WRITE_FAILED", "Could not publish Growth Contract cache entry.", []⟩)

inductive Result where
  | returned (contract : GrowthContract)
  | raised (thrown : Thrown)

/-- What a finished flight holds: a snapshot, an error or the request to try again. -/
inductive Outcome where
  | snapshot (snapshot : GrowthCacheSnapshot)
  | error (error : AnalyzerError)
  | retry

structure InFlightState where
  event : Bool := false
  snapshot : Option GrowthCacheSnapshot := none
  error : Option AnalyzerError := none
  retry : Bool := false

def Outcome.state : Outcome → InFlightState
  | .snapshot held => { event := true, snapshot := some held }
  | .error held => { event := true, error := some held }
  | .retry => { event := true, retry := true }

def Thrown.outcome (apiKey : String) : Thrown → Outcome
  | .known (.analyzer error) =>
    if error.code ∈ shareableFailures then
      .error { error with details := redactMapping apiKey error.details }
    else .retry
  | _ => .retry

/-- Where an owner stands between joining and the end of its call. -/
inductive Place where
  | opening
  | looking (available : Bool)
  | cached (snapshot : GrowthCacheSnapshot)
  | authenticating
  | reserving (authenticated : Bool)
  | attempting (authenticated : Bool) (variant : PromptVariant)
  | publishing (authenticated : Bool) (snapshot : GrowthCacheSnapshot)
  | published (snapshot : GrowthCacheSnapshot)
  | accepting (snapshot : GrowthCacheSnapshot)
  | closing (result : Result)
  | catching (thrown : Thrown)

/-- Where a call stands; an owner carries its variables `state` and `flight_finished`. -/
inductive Stage where
  | starting
  | joining
  | waiting (state : Nat)
  | woken (state : Nat)
  | learned (state : Nat) (snapshot : Option GrowthCacheSnapshot)
  | accepting (snapshot : GrowthCacheSnapshot)
  | owning (state : Option Nat) (flightFinished : Bool) (place : Place)
  | ended (result : Result)

/-- Where a waiter goes on that has read a snapshot and an error. -/
def Stage.told : Option GrowthCacheSnapshot → Option AnalyzerError → Stage
  | some snapshot, _ => .accepting snapshot
  | none, some error => .ended (.raised (.known (.analyzer error)))
  | none, none => .starting

def Outcome.stage : Outcome → Stage
  | .snapshot held => .accepting held
  | .error held => .ended (.raised (.known (.analyzer held)))
  | .retry => .starting

/-- Where an owner's exception may leave the body of the `with` statements. -/
def Place.fails : Place → Thrown → Prop
  | .looking available, _ => available = true
  | .authenticating, _ => True
  | .reserving _, _ => True
  | .attempting _ .initial, thrown => thrown.correctable = false
  | .attempting _ .correction, _ => True
  | .publishing _ _, _ => True
  | .accepting _, _ => True
  | _, _ => False

inductive Moves : Place → Place → Prop where
  | enter (available : Bool) : Moves .opening (.looking available)
  | refuse (thrown : Thrown) : Moves .opening (.catching thrown)
  | found (snapshot : GrowthCacheSnapshot) : Moves (.looking true) (.cached snapshot)
  | absent : Moves (.looking true) .authenticating
  | unavailable : Moves (.looking false) (.reserving false)
  | authenticate (authenticated : Bool) : Moves .authenticating (.reserving authenticated)
  | reserve (authenticated : Bool) :
      Moves (.reserving authenticated) (.attempting authenticated .initial)
  | answer (authenticated : Bool) (snapshot : GrowthCacheSnapshot) :
      Moves (.attempting authenticated snapshot.acceptedPromptVariant)
        (.publishing authenticated snapshot)
  | correct (authenticated : Bool) (raised : Raised) (correctable : correctable raised = true) :
      Moves (.attempting authenticated .initial) (.attempting authenticated .correction)
  | giveUp (authenticated : Bool) (raised : Raised) (correctable : correctable raised = true) :
      Moves (.attempting authenticated .correction)
        (.closing (.raised (.known (terminalFailure raised))))
  | keep (snapshot : GrowthCacheSnapshot) : Moves (.publishing true snapshot) (.published snapshot)
  | put (snapshot : GrowthCacheSnapshot) : Moves (.publishing false snapshot) (.published snapshot)
  | putFails (snapshot : GrowthCacheSnapshot) :
      Moves (.publishing false snapshot) (.closing (.raised cacheWriteFailed))
  | accept (snapshot : GrowthCacheSnapshot) :
      Moves (.accepting snapshot) (.closing (.returned snapshot.contract))
  | fail (place : Place) (thrown : Thrown) (fails : place.fails thrown) :
      Moves place (.closing (.raised thrown))
  | close (thrown : Thrown) : Moves (.closing (.raised thrown)) (.catching thrown)
  | closeFails (result : Result) (thrown : Thrown) : Moves (.closing result) (.catching thrown)

inductive Works : Stage → Stage → Prop where
  | refuse (thrown : Thrown) : Works .starting (.ended (.raised thrown))
  | hit (snapshot : GrowthCacheSnapshot) : Works .starting (.accepting snapshot)
  | miss : Works .starting .joining
  | accept (snapshot : GrowthCacheSnapshot) :
      Works (.accepting snapshot) (.ended (.returned snapshot.contract))
  | reject (snapshot : GrowthCacheSnapshot) (thrown : Thrown) :
      Works (.accepting snapshot) (.ended (.raised thrown))
  | move (state : Option Nat) (finished : Bool) (place next : Place) (moves : Moves place next) :
      Works (.owning state finished place) (.owning state finished next)
  | close (state : Option Nat) (finished : Bool) (contract : GrowthContract) :
      Works (.owning state finished (.closing (.returned contract))) (.ended (.returned contract))
  | caught (state : Option Nat) (thrown : Thrown) :
      Works (.owning state true (.catching thrown)) (.ended (.raised thrown))

/-- The calls of `_finish_inflight`: the state, its outcome and where the owner goes on. -/
inductive Finishes (apiKey : String) : Stage → Nat → Outcome → Stage → Prop where
  | cached (state : Nat) (finished : Bool) (snapshot : GrowthCacheSnapshot) :
      Finishes apiKey (.owning (some state) finished (.cached snapshot)) state (.snapshot snapshot)
        (.owning none true (.accepting snapshot))
  | published (state : Nat) (finished : Bool) (snapshot : GrowthCacheSnapshot) :
      Finishes apiKey (.owning (some state) finished (.published snapshot)) state
        (.snapshot snapshot) (.owning none true (.accepting snapshot))
  | caught (state : Nat) (thrown : Thrown) :
      Finishes apiKey (.owning (some state) false (.catching thrown)) state (thrown.outcome apiKey)
        (.ended (.raised thrown))

structure Run (Caller : Type) where
  flights : List InFlightState
  inflight : String → Option Nat
  stages : Caller → Stage

/-- The callers' cache keys and the secrets that their errors are redacted by. -/
structure Callers (Caller : Type) where
  key : Caller → String
  apiKey : Caller → String

variable {Caller : Type}

/-- The state of the key's flight, and whether the call owns it. -/
def Run.joinInflight (run : Run Caller) (key : String) : Nat × Bool × Run Caller :=
  match run.inflight key with
  | some state => (state, false, run)
  | none =>
    (run.flights.length, true,
      { run with
        flights := run.flights ++ [{}]
        inflight := update run.inflight key (some run.flights.length) })

def Run.finishInflight (run : Run Caller) (key : String) (state : Nat) (outcome : Outcome) :
    Run Caller :=
  { run with
    inflight :=
      if run.inflight key = some state then update run.inflight key none else run.inflight
    flights := run.flights.set state outcome.state }

def Stage.joined (state : Nat) (owner : Bool) : Stage :=
  if owner then .owning (some state) false .opening else .waiting state

inductive Label (Caller : Type) where
  | worked (caller : Caller)
  | joined (caller : Caller) (state : Nat) (owner : Bool)
  | told (caller : Caller) (state : Nat) (stage : Stage)
  | finished (caller : Caller) (state : Nat) (outcome : Outcome)

def Label.caller : Label Caller → Caller
  | .worked caller => caller
  | .joined caller _ _ => caller
  | .told caller _ _ => caller
  | .finished caller _ _ => caller

def Run.start : Run Caller := ⟨[], fun _ => none, fun _ => .starting⟩

variable [DecidableEq Caller] (callers : Callers Caller)

def Run.moves (run : Run Caller) (caller : Caller) (stage : Stage) : Run Caller :=
  { run with stages := update run.stages caller stage }

inductive Step : Run Caller → Label Caller → Run Caller → Prop where
  | work (run : Run Caller) (caller : Caller) (stage : Stage)
      (works : Works (run.stages caller) stage) :
      Step run (.worked caller) (run.moves caller stage)
  | join (run next : Run Caller) (caller : Caller) (state : Nat) (owner : Bool)
      (joining : run.stages caller = .joining)
      (joins : run.joinInflight (callers.key caller) = (state, owner, next)) :
      Step run (.joined caller state owner) (next.moves caller (.joined state owner))
  | wake (run : Run Caller) (caller : Caller) (state : Nat) (flight : InFlightState)
      (waiting : run.stages caller = .waiting state) (found : run.flights[state]? = some flight)
      (set : flight.event = true) :
      Step run (.worked caller) (run.moves caller (.woken state))
  | learn (run : Run Caller) (caller : Caller) (state : Nat) (flight : InFlightState)
      (woken : run.stages caller = .woken state) (found : run.flights[state]? = some flight) :
      Step run (.worked caller) (run.moves caller (.learned state flight.snapshot))
  | tell (run : Run Caller) (caller : Caller) (state : Nat) (flight : InFlightState)
      (snapshot : Option GrowthCacheSnapshot)
      (learned : run.stages caller = .learned state snapshot)
      (found : run.flights[state]? = some flight) :
      Step run (.told caller state (.told snapshot flight.error))
        (run.moves caller (.told snapshot flight.error))
  | finish (run : Run Caller) (caller : Caller) (state : Nat) (outcome : Outcome) (stage : Stage)
      (finishes : Finishes (callers.apiKey caller) (run.stages caller) state outcome stage) :
      Step run (.finished caller state outcome)
        ((run.finishInflight (callers.key caller) state outcome).moves caller stage)

inductive Runs : List (Label Caller) → Run Caller → Prop where
  | start : Runs [] Run.start
  | step (history : List (Label Caller)) (label : Label Caller) (run next : Run Caller)
      (runs : Runs history run) (step : Step callers run label next) :
      Runs (label :: history) next

end DosWeb.Llm
