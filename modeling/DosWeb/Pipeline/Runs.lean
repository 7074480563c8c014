import DosWeb.Pipeline.Publish

/-!
A run of the pipeline: which stages it executes, what it writes to the run's file, and what it
raises. The file system and the functions a pipeline is created with are operations on a world.
-/

namespace DosWeb.Pipeline

open Artifacts Identifiers Library Library.JsonValue Library.JsonText

inductive ThrownKind where
  | analyzer (error : AnalyzerError)
  | ordinary (typeName : String)
  | exiting (typeName : String)
  deriving DecidableEq

/-- Where an exception object comes from: an operation raised it, or the run made it. -/
inductive Origin where
  | raised (number : Nat)
  | made
  deriving DecidableEq

structure Thrown where
  kind : ThrownKind
  origin : Origin
  deriving DecidableEq

structure Failure where
  thrown : Thrown
  causes : List Thrown
  deriving DecidableEq

def Failure.raisedFrom (failure cause : Failure) : Failure :=
  { failure with causes := cause.thrown :: cause.causes }

def ThrownKind.typeName : ThrownKind → String
  | .analyzer _ => "AnalyzerError"
  | .ordinary typeName => typeName
  | .exiting typeName => typeName

def madeError (code message : String) (details : Members Empty) : AnalyzerError :=
  ⟨code, message, details⟩

def Failure.made (error : AnalyzerError) (causes : List Thrown) : Failure :=
  ⟨⟨.analyzer error, .made⟩, causes⟩

/-- What reading a JSON file gives: an object of the language, nothing where it cannot be opened or
decoded, or another exception. -/
inductive JsonFile (F : Type) where
  | value (json : Json F)
  | absent
  | unreadable
  | raised (failure : Failure)

inductive ExecutorResult (F : Type) where
  | output (output : StageOutput F)
  | artifacts (artifacts : List (String × Payload F))
  | other

/-- A manifest has a text for the hash of what its stage put out. -/
structure Manifest (F : Type) where
  members : Members F
  outputHash : String
  hashed : field "output_hash" (.obj members) = some (.str outputHash)

inductive WriteResult where
  | written
  | failed (failure : Failure) (landed : Bool)

structure Clock (F : Type) where
  startedAt : F
  stageTimes : Stage → StageTimes F
  failedAt : F
  finalizedAt : F
  endedAt : F

abbrev Context (F : Type) := Json F × Members F × Members F

/-- The operations of a pipeline: files, its executors, publication, its preflight and finalizer. -/
structure Operations (F σ : Type) where
  readJson : Path → σ → JsonFile F
  readFile : Path → σ → Option (List UInt8)
  writeRun : Members F → σ → WriteResult × σ
  executors : Stage → Option (Context F → σ → Except Failure (ExecutorResult F) × σ)
  publish : Stage → Json F → StageOutput F → StageTimes F → Json F → σ →
    Except Failure (Manifest F) × σ
  preflight : Option (σ → Except Failure Unit × σ)
  finalizer : Option (σ → Except Failure Unit × σ)
  clock : Clock F
  sameNumber : Json F → Json F → Bool
  encodingFailure : Json F → Failure

inductive Source where
  | load
  | identity
  | preflight
  | reuse (stage : Stage)
  | stage (stage : Stage)
  | write
  | finalizer
  deriving DecidableEq

inductive Event (F σ : Type) where
  | skipped (stage : Stage) (run : Members F) (world : σ)
  | executed (stage : Stage) (context : Context F) (world : σ)
  | failed (source : Source) (failure : Failure)
  | wrote
  | finalized

/-- The state of a run: the world, the run's record, the manifests of earlier runs, the record in
the run's file and what has happened. -/
structure RunState (F σ : Type) where
  world : σ
  run : Members F := []
  prior : Members F := []
  persisted : Option (Members F) := none
  events : List (Event F σ) := []

abbrev Running (F σ : Type) := EStateM Failure (RunState F σ)

variable {F σ : Type} [FloatText F] (settings : Settings F) (ops : Operations F σ)

def note (event : Event F σ) : Running F σ Unit :=
  modify fun state => { state with events := state.events ++ [event] }

def raise {α : Type} (source : Source) (failure : Failure) : Running F σ α := do
  note (.failed source failure)
  throw failure

def attempt {α : Type} (source : Source) (operation : σ → Except Failure α × σ) :
    Running F σ α := fun state =>
  match operation state.world with
  | (.ok value, world) => .ok value { state with world := world }
  | (.error failure, world) => .error failure
      { state with world := world, events := state.events ++ [.failed source failure] }

def setRun (key : String) (value : Json F) : Running F σ Unit :=
  modify fun state => { state with run := setMember key value state.run }

/-- Writes the run's record to its file; a write that fails may have replaced the file. -/
def writeRun : Running F σ Unit := fun state =>
  match ops.writeRun state.run state.world with
  | (.written, world) => .ok () { state with
      world := world, persisted := some state.run, events := state.events ++ [.wrote] }
  | (.failed failure landed, world) => .error failure { state with
      world := world, persisted := if landed then some state.run else state.persisted,
      events := state.events ++ [.failed .write failure] }

def newRun : Members F := [
  ("schema_version", .str settings.schemaVersion), ("tool_version", .str settings.toolVersion),
  ("status", .str "pending"), ("error", .null), ("identity", .obj settings.runIdentity),
  ("stages", .obj (stages.map fun stage => (stage.text, .obj [("status", .str "pending")])))]

def metadataInvalid : Failure :=
  .made (madeError "ARTIFACT_RUN_METADATA_INVALID" "Resume run metadata is malformed." []) []

def isObject : Option (Json F) → Bool
  | some (.obj _) => true
  | _ => false

def loadRun : Running F σ (Members F) := do
  match ops.readJson (outputPath ["run.json"]) (← get).world with
  | .absent => return newRun settings
  | .unreadable => raise .load metadataInvalid
  | .raised failure => raise .load failure
  | .value (.obj members) =>
    if isObject (field "stages" (.obj members)) then return members
    else raise .load metadataInvalid
  | .value _ => raise .load metadataInvalid

/-- Whether an item of a manifest names a path of the output root. -/
def ownsPath (item : Json F) : Bool :=
  match field "path" item with
  | some (.str path) => (safeRelative path).isOk
  | _ => false

def hasText (key text : String) (json : Json F) : Bool :=
  match field key json with
  | some (.str own) => own == text
  | _ => false

def provable (stage : Stage) (manifest : Json F) : Bool := hasText "stage" stage.text manifest &&
  (match field "artifacts" manifest with
    | some (.arr items) => items.all ownsPath
    | _ => false)

def loadPriorFrom : List Stage → Members F → Running F σ (Members F)
  | [], prior => return prior
  | stage :: rest, prior => do
      match ops.readJson (manifestPath stage) (← get).world with
      | .value manifest =>
        if provable stage manifest then
          loadPriorFrom rest (setMember stage.text manifest prior)
        else loadPriorFrom rest prior
      | .raised failure => raise .load failure
      | _ => loadPriorFrom rest prior

def stageMeta (run : Members F) (stage : Stage) : Members F :=
  match field "stages" (.obj run) with
  | some metadata =>
    match field stage.text metadata with
    | some (.obj members) => members
    | _ => []
  | none => []

/-- The hash of what a stage put out; a stage that stands has a text there. -/
def outputHash (metadata : Members F) : String :=
  match field "output_hash" (.obj metadata) with
  | some (.str text) => text
  | _ => ""

def firstFilled (first second : String) : String := if first = "" then second else first

def fingerprint (stage : Stage) (upstream : List (String × String)) : Json F :=
  .obj [("stage", .str stage.text), ("schema_version", .str settings.schemaVersion),
    ("tool_version", .str settings.toolVersion), ("implementation_version",
      .str ((settings.implementationVersions.lookup stage.text).getD "v1")),
    ("database_fingerprint", .str settings.databaseFingerprint),
    ("query_pack_hash", .str settings.queryPackHash),
    ("config_hash", .str (firstFilled settings.configHash settings.configFingerprint)),
    ("config_fingerprint", .str (firstFilled settings.configFingerprint settings.configHash)),
    ("model_fingerprint", .str (if stage = .entries then "" else settings.modelFingerprint)),
    ("report_fingerprint", .str (if stage = .report then settings.reportFingerprint else "")),
    ("upstream_hashes", .obj ((upstream.insertionSort fun left right => left.1 ≤ right.1).map
      fun hash => (hash.1, .str hash.2)))]

/-- Whether the file of an item has the digest and the number of records that the item says. -/
def artifactStands (world : σ) (item : Json F) : Bool :=
  hasText "schema_version" settings.schemaVersion item &&
  match field "path" item, field "sha256" item, field "record_count" item with
  | some (.str raw), some (.str digest), some (.int count) =>
    0 ≤ count &&
    match safeRelative raw with
    | .ok relative =>
      match ops.readFile (outputPath relative.parts) world with
      | some data => Sha256.hexdigest data == digest && (countLines data : Int) == count
      | none => false
    | .error _ => false
  | _, _, _ => false

def canonicalHash (source : Source) (json : Json F) : Running F σ String :=
  if encodable settings.recursionLimit json then return sha256CanonicalJson json
  else raise source (ops.encodingFailure json)

/-- Whether the artifacts of a stage on disk are those of its manifest, which is its record. -/
def manifestStands (stage : Stage) (metadata : Members F) (artifacts : List (Json F)) :
    Running F σ Bool := do
  let world := (← get).world
  match ops.readJson (manifestPath stage) world with
  | .value manifest =>
    return alike ops.sameNumber manifest (.obj metadata) &&
      artifacts.all (artifactStands settings ops world)
  | .raised failure => raise (.reuse stage) failure
  | _ => return false

/-- Whether a stage is recorded as completed under a fingerprint. -/
def recordStands (expected : Json F) (metadata : Members F) : Bool :=
  hasText "status" "completed" (.obj metadata) &&
    match field "fingerprint" (.obj metadata) with
    | some fingerprint => alike ops.sameNumber fingerprint expected
    | none => false

def artifactsStand (stage : Stage) (metadata : Members F) : Running F σ Bool := do
  match field "artifacts" (.obj metadata) with
  | some (.arr (first :: rest)) => do
      let hash ← canonicalHash settings ops (.reuse stage) (.arr (first :: rest))
      if hasText "output_hash" hash (.obj metadata) then
        manifestStands settings ops stage metadata (first :: rest)
      else return false
  | _ => return false

def reusable (stage : Stage) (expected : Json F) : Running F σ Bool := do
  let metadata := stageMeta (← get).run stage
  if recordStands ops expected metadata then artifactsStand settings ops stage metadata
  else return false

/-- The stages of a run, and an empty dictionary where they are none. -/
def runStages (run : Members F) : Members F :=
  match field "stages" (.obj run) with
  | some (.obj members) => members
  | _ => []

def stagesFrom (first : Stage) : List Stage := stages.dropWhile (· ≠ first)

def setStages (value : Stage → Json F) (names : List Stage) (members : Members F) : Members F :=
  names.foldl (fun members stage => setMember stage.text (value stage) members) members

def invalidateFrom (first : Stage) (run : Members F) : Members F :=
  setMember "stages" (.obj (setStages (fun _ => .obj [("status", .str "invalid")])
    (stagesFrom first) (runStages run))) run

def execute (stage : Stage) (expected : Json F) (upstream : Members F) :
    Running F σ (StageOutput F) := do
  match ops.executors stage with
  | none => raise (.stage stage) (.made (madeError "INTERNAL_STAGE_EXECUTORS_UNAVAILABLE"
      "Production stage executors are unavailable." [("stage", .str stage.text)]) [])
  | some executor => do
      let state ← get
      let context := (expected, upstream, state.run)
      note (.executed stage context state.world)
      match ← attempt (.stage stage) (executor context) with
      | .output output => return output
      | .artifacts artifacts => return ⟨artifacts, []⟩
      | .other => raise (.stage stage) (.made (madeError "ARTIFACT_INVALID_RECORD"
          "Stage executor returned an invalid output." [("stage", .str stage.text)]) [])

/-- Publishes what a stage put out; its manifest becomes its record and its prior manifest. -/
def publishStage (stage : Stage) (expected : Json F) (output : StageOutput F) :
    Running F σ Unit := do
  let old := priorManifest (← get).prior stage
  let manifest ← attempt (.stage stage)
    (ops.publish stage expected output (ops.clock.stageTimes stage) old)
  modify fun state => { state with
    run := setMember "stages"
      (.obj (setMember stage.text (.obj manifest.members) (runStages state.run))) state.run
    prior := setMember stage.text (.obj manifest.members) state.prior }

def lastCharacters (count : Nat) (text : String) : String :=
  String.ofList (text.toList.drop (text.toList.length - count))

def textDetail (count : Nat) (key : String) (error : AnalyzerError) : Members F :=
  match field key (.obj error.details) with
  | some (.str text) => [(key, .str (lastCharacters count text))]
  | _ => []

def numberDetail (key : String) (error : AnalyzerError) : Members F :=
  match field key (.obj error.details) with
  | some (.int number) => [(key, .int number)]
  | _ => []

def stageDetails (error : AnalyzerError) : Members F :=
  textDetail 128 "stage" error ++ textDetail 2048 "diagnostic" error ++
    numberDetail "returncode" error

def runDetails (error : AnalyzerError) : Members F :=
  ["stage", "reason", "error_type"].flatMap fun key => textDetail 128 key error

def withDetails (members details : Members F) : Members F :=
  if details.isEmpty then members else members ++ [("details", .obj details)]

/-- The stages with one failed and those behind it pending. -/
def failedStages (stage : Stage) (error : AnalyzerError) (members : Members F) : Members F :=
  setStages (fun name => .obj (if name = stage then
    withDetails [("status", .str "failed"), ("error", .str error.code)] (stageDetails error)
    else [("status", .str "pending")])) (stagesFrom stage) members

def failureJson (error : AnalyzerError) (details : Members F) : Json F :=
  .obj (withDetails [("code", .str error.code), ("message", .str error.message)] details)

def markFailure (stage : Stage) (error : AnalyzerError) (run : Members F) : Members F :=
  let marked := match field "stages" (.obj run) with
    | some (.obj members) => setMember "stages" (.obj (failedStages stage error members)) run
    | _ => run
  setMember "error" (failureJson error (stageDetails error))
    (setMember "status" (.str "failed") marked)

def markRunFailure (error : AnalyzerError) (endedAt : F) (run : Members F) : Members F :=
  setMember "ended_at" (.float endedAt) (setMember "error" (failureJson error (runDetails error))
    (setMember "status" (.str "failed") run))

/-- The error a stage's failure is marked and raised with; what ends the process is raised as it
is. -/
def stageError (stage : Stage) (failure : Failure) : Option (AnalyzerError × Failure) :=
  match failure.thrown.kind with
  | .analyzer error => some (error, failure)
  | .ordinary typeName =>
    let error := madeError "ANALYSIS_STAGE_FAILED" "Injected stage executor failed."
      [("stage", .str stage.text), ("error_type", .str typeName)]
    some (error, .made error (failure.thrown :: failure.causes))
  | .exiting _ => none

def produce (stage : Stage) (expected : Json F) (upstream : Members F) : Running F σ Unit := do
  let output ← execute ops stage expected upstream
  publishStage ops stage expected output
  writeRun ops

def runStage (stage : Stage) (expected : Json F) (upstream : Members F) : Running F σ Unit := do
  modify fun state => { state with run := invalidateFrom stage state.run }
  tryCatch (produce ops stage expected upstream) fun failure =>
    match stageError stage failure with
    | some (error, raised) => do
        modify fun state => { state with run := markFailure stage error state.run }
        throw raised
    | none => throw failure

def skipStage (stage : Stage) : Running F σ Unit := do
  let state ← get
  note (.skipped stage state.run state.world)

def reuseOrRun (stage : Stage) (expected : Json F) (upstream : Members F) : Running F σ Unit := do
  if ← reusable settings ops stage expected then skipStage stage
  else runStage ops stage expected upstream

def hashes (upstream : Members F) : List (String × String) :=
  upstream.map fun member =>
    (member.1, match member.2 with
      | .obj metadata => outputHash metadata
      | _ => "")

def stageLoop (last : Stage) : List Stage → Members F → Running F σ Unit
  | [], _ => return ()
  | stage :: rest, upstream => do
      reuseOrRun settings ops stage (fingerprint settings stage (hashes upstream)) upstream
      let metadata := stageMeta (← get).run stage
      if stage = last then return ()
      else stageLoop last rest (upstream ++ [(stage.text, .obj metadata)])

def priorAttempt (run : Members F) : Int :=
  match field "attempt" (.obj run) with
  | some (.int number) => if number < 0 then 0 else number
  | _ => 0

def begun (run : Members F) : Members F :=
  [("schema_version", .str settings.schemaVersion), ("tool_version", .str settings.toolVersion),
    ("identity", .obj settings.runIdentity), ("attempt", .int (priorAttempt run + 1)),
    ("status", .str "running"), ("error", .null), ("started_at", .float ops.clock.startedAt)].foldl
    (fun run member => setMember member.1 member.2 run) run

/-- Keeps the hash of an earlier identity that is another one. -/
def keepIdentity (previous : Option (Json F)) : Running F σ Unit := do
  match previous with
  | some (.obj members) =>
    if alike ops.sameNumber (.obj members) (.obj settings.runIdentity) then return ()
    else do
      let hash ← canonicalHash settings ops .identity (.obj members)
      setRun "previous_identity_hash" (.str hash)
  | _ => return ()

def firstRun : Running F σ (Members F) :=
  if settings.resume then loadRun settings ops else pure (newRun settings)

def runPreflight : Running F σ Unit :=
  match ops.preflight with
  | some preflight => attempt .preflight preflight
  | none => pure ()

/-- Loads the manifests of earlier runs and the record the run begins with, and gives that. -/
def loadState : Running F σ (Members F) := do
  let prior ← loadPriorFrom ops stages []
  modify fun state => { state with prior := prior }
  let run ← firstRun settings ops
  modify fun state => { state with run := begun settings ops run }
  return run

def stagedRun (last : Stage) : Running F σ Unit := do
  let run ← loadState settings ops
  writeRun ops
  runPreflight ops
  keepIdentity settings ops (field "identity" (.obj run))
  setRun "identity" (.obj settings.runIdentity)
  writeRun ops
  stageLoop settings ops last stages []

/-- The error of a run that is not the analyzer's own. -/
def pipelineError (failure : Failure) : AnalyzerError :=
  match failure.thrown.kind with
  | .analyzer error => error
  | kind => madeError "ANALYSIS_PIPELINE_FAILED" "Pipeline execution failed."
      [("error_type", .str kind.typeName)]

def recorded (state : RunState F σ) : Bool := !state.run.isEmpty

def outcomeOf (program : Running F σ Unit) : Running F σ (Option Failure) :=
  tryCatch (do
    program
    return none) fun failure => return some failure

def markedRun (failure : Failure) (run : Members F) : Members F :=
  if hasText "status" "failed" (.obj run) then run
  else markRunFailure (pipelineError failure) ops.clock.failedAt run

/-- Marks and writes a run that failed, and gives the failure of the write. -/
def keepFailure (failure : Option Failure) : Running F σ (Option Failure) := do
  match failure with
  | some failure =>
    if recorded (← get) then
      modify fun state => { state with run := markedRun ops failure state.run }
      outcomeOf (writeRun ops)
    else return none
  | none => return none

def finalizationFailure (failure : Failure) : Failure :=
  match failure.thrown.kind with
  | .analyzer _ => failure
  | kind => .made (madeError "ANALYSIS_FINALIZATION_FAILED" "Pipeline finalization failed."
      [("error_type", .str kind.typeName)]) []

def finalize : Running F σ (Option Failure) := do
  match ops.finalizer with
  | none => return none
  | some finalizer => do
      note .finalized
      return (← outcomeOf (attempt .finalizer finalizer)).map finalizationFailure

def finalizedRun (finalization : Option Failure) (run : Members F) : Members F :=
  match finalization with
  | some failure => markRunFailure (pipelineError failure) ops.clock.finalizedAt run
  | none => run

/-- Writes the run once more where its finalizer or an earlier write failed. -/
def retryWrite (finalization failureWrite : Option Failure) : Running F σ (Option Failure) := do
  if recorded (← get) && (finalization.isSome || failureWrite.isSome) then
    modify fun state => { state with run := finalizedRun ops finalization state.run }
    outcomeOf (writeRun ops)
  else return none

/-- A failure of a write with the failure before it as its cause, where that is another. -/
def chained (write : Failure) (failure : Option Failure) : Failure :=
  match failure with
  | some original => if write.thrown = original.thrown then original else write.raisedFrom original
  | none => write

/-- The failure that is raised: of the finalizer, else of a write, else the one before. -/
def raisedFailure (failure write finalization : Option Failure) : Option Failure :=
  match finalization, write, failure with
  | some final, some write, failure => some (final.raisedFrom (chained write failure))
  | some final, none, some failure => some (final.raisedFrom failure)
  | some final, none, none => some final
  | none, some write, failure => some (chained write failure)
  | none, none, failure => failure

def concludeRun (raised : Option Failure) : Running F σ (Members F) := do
  match raised with
  | some failure => throw failure
  | none => do
      modify fun state => { state with
        run := setMember "ended_at" (.float ops.clock.endedAt)
          (setMember "error" .null (setMember "status" (.str "completed") state.run)) }
      writeRun ops
      return (← get).run

/-- A run up to a stage, once the lock of the output root is held. -/
def runPipeline (last : Stage) : Running F σ (Members F) := do
  let failure ← outcomeOf (stagedRun settings ops last)
  let failureWrite ← keepFailure ops failure
  let finalization ← finalize ops
  let retry ← retryWrite ops finalization failureWrite
  concludeRun ops (raisedFailure failure (retry.or failureWrite) finalization)

end DosWeb.Pipeline
