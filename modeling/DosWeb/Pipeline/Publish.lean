import DosWeb.Artifacts.Jsonl
import DosWeb.Library.OrderedSet
import DosWeb.Library.Steps
import DosWeb.Pipeline.Paths

namespace DosWeb.Pipeline

open Artifacts Identifiers Library Library.JsonValue Library.JsonText Library.OrderedSet

abbrev outputPath (path : Path) : Path := "output" :: path

/-- A path within the stage's temporary directory, whose random name no artifact has. -/
abbrev temporaryPath (path : Path) : Path := "temporary" :: path

inductive Operation where
  | makeTemporary
  | inspect (path : Path)
  | mkdir (path : Path)
  | write (path : Path)
  | read (path : Path)
  | exists_ (path : Path)
  | replace (source target : Path)
  | chmod (path : Path)
  | unlink (path : Path)
  | sync (path : Path)
  deriving DecidableEq

/-- An operation that fails once it has succeeded the given number of times. -/
structure Fault where
  operation : Operation
  earlier : Nat
  deriving DecidableEq

def Fault.after (operation : Operation) : Option Fault → Option Fault
  | none => none
  | some fault =>
    if fault.operation = operation then some { fault with earlier := fault.earlier - 1 }
    else some fault

structure Progress where
  tree : FileTree
  fault : Option Fault
  backups : List (Path × Path) := []
  published : List Path := []
  manifestBackup : Option Path := none
  manifestTouched : Bool := false

abbrev Publishing := EStateM Raised Progress

def failed : Raised := .osError "The operation failed."

/-- Calls the file system. A call that fails changes nothing, and no later one is made to fail. -/
def call {α : Type} (operation : Operation) (effect : FileTree → Option (α × FileTree)) :
    Publishing α := fun progress =>
  if progress.fault = some ⟨operation, 0⟩ then .error failed { progress with fault := none }
  else
    match effect progress.tree with
    | none => .error failed { progress with fault := none }
    | some (value, tree) =>
      .ok value { progress with tree := tree, fault := Fault.after operation progress.fault }

def perform (operation : Operation) (effect : FileTree → Option FileTree) : Publishing Unit :=
  call operation fun tree => (effect tree).map fun next => ((), next)

def exists_ (path : Path) : Publishing Bool :=
  call (.exists_ path) fun tree => some (decide (tree.node path ≠ none), tree)

def readFile (path : Path) : Publishing (List UInt8) :=
  call (.read path) fun tree => (tree.fileAt path).map fun data => (data, tree)

def move (source target : Path) : Publishing Unit :=
  perform (.replace source target) fun tree => tree.replace source target

def unlink (path : Path) : Publishing Unit := perform (.unlink path) fun tree => tree.unlink path

def makeDirectory (path : Path) : Publishing Unit := do
  if (← get).tree.node path ≠ some .directory then
    perform (.mkdir path) fun tree => tree.mkdir path

/-- Makes the directory `front`, then those on the way from it. -/
def makeDirectoriesFrom (front : Path) : List String → Publishing Unit
  | [] => makeDirectory front
  | name :: rest => do
      makeDirectory front
      makeDirectoriesFrom (front ++ [name]) rest

def makeDirectories (path : Path) : Publishing Unit := makeDirectoriesFrom [] path

def check {α : Type} (checked : Checked α) : Publishing α :=
  match checked with
  | .ok value => pure value
  | .error raised => throw raised

/-- The settings a pipeline is created with; `shown` gives the text of a path of the output root. -/
structure Settings (F : Type) where
  schemaVersion : String
  toolVersion : String
  implementationVersions : List (String × String)
  databaseFingerprint : String
  queryPackHash : String
  configHash : String
  modelFingerprint : String
  reportFingerprint : String
  configFingerprint : String
  runIdentity : Members F
  resume : Bool
  shown : String → String
  recursionLimit : Nat

structure StageOutput (F : Type) where
  artifacts : List (String × Payload F)
  metadata : Members F

structure StageTimes (F : Type) where
  startedAt : F
  endedAt : F
  durationSeconds : F

structure Written where
  relative : Relative
  sha256 : String
  recordCount : Nat
  byteCount : Nat
  schemaVersion : String

def Written.destination (written : Written) : Path := outputPath written.relative.parts

def Written.staged (written : Written) : Path := temporaryPath written.relative.parts

section

variable {F : Type} [FloatText F]

def Written.toJson (written : Written) : Json F :=
  .obj [("path", .str written.relative.text), ("sha256", .str written.sha256),
    ("record_count", .int written.recordCount), ("byte_count", .int written.byteCount),
    ("schema_version", .str written.schemaVersion)]

/-- Links are no part of the tree; what is left to refuse is a path below a file. -/
def assertNoSymlinkPath (shown : String → String) (relative : Relative) : Publishing Unit :=
  fun progress =>
    let path := outputPath relative.parts
    if progress.fault = some ⟨.inspect path, 0⟩ ∨
        path.dropLast.inits.any (fun above => (progress.tree.fileAt above).isSome) then
      .error (artifactError "ARTIFACT_UNSAFE_OUTPUT_PATH" "Could not validate output path."
        [("path", .str (shown relative.text))]) { progress with fault := none }
    else .ok () { progress with fault := Fault.after (.inspect path) progress.fault }

def normalizeArtifacts (shown : String → String) :
    List (String × Payload F) → List (Relative × Payload F) →
      Publishing (List (Relative × Payload F))
  | [], normalized => pure normalized
  | (raw, payload) :: rest, normalized => do
      let relative ← check (safeRelative raw)
      check (require (normalized.all fun other => other.1.text != relative.text)
        (artifactError "ARTIFACT_DUPLICATE_PATH"
          "Stage artifact paths normalize to the same destination."
          [("path", .str relative.text)]))
      assertNoSymlinkPath shown relative
      normalizeArtifacts shown rest (normalized ++ [(relative, payload)])

def sortArtifacts (normalized : List (Relative × Payload F)) : List (Relative × Payload F) :=
  normalized.insertionSort fun left right => left.1.text ≤ right.1.text

def stageArtifact (settings : Settings F) (relative : Relative) (payload : Payload F) :
    Publishing Written := do
  let (data, count) ← check (encodePayload settings.recursionLimit payload)
  let staged := temporaryPath relative.parts
  makeDirectories staged.dropLast
  perform (.write staged) fun tree => tree.write staged data
  let held ← readFile staged
  check (require (Sha256.hexdigest held == Sha256.hexdigest data && countLines held == count)
    (artifactError "ARTIFACT_VALIDATION_FAILED" "Staged artifact validation failed."
      [("path", .str relative.text)]))
  return ⟨relative, Sha256.hexdigest held, count, data.length, settings.schemaVersion⟩

def stageArtifacts (settings : Settings F) : List (Relative × Payload F) → Publishing (List Written)
  | [] => pure []
  | (relative, payload) :: rest => do
      let written ← stageArtifact settings relative payload
      let others ← stageArtifacts settings rest
      return written :: others

def manifestJson (settings : Settings F) (stage : Stage) (fingerprint : Json F)
    (written : List Written) (metadata : Members F) (times : StageTimes F) : Json F :=
  let artifacts : Json F := .arr (written.map Written.toJson)
  .obj [("stage", .str stage.text), ("status", .str "completed"), ("fingerprint", fingerprint),
    ("artifacts", artifacts), ("output_hash", .str (sha256CanonicalJson artifacts)),
    ("metadata", .obj metadata), ("started_at", .float times.startedAt),
    ("ended_at", .float times.endedAt), ("duration_seconds", .float times.durationSeconds),
    ("identity", .obj settings.runIdentity)]

/-- The paths a stage's earlier manifest lists, as it lists them. -/
def oldPaths (old : Json F) : List String :=
  match field "artifacts" old with
  | some (.arr items) => items.filterMap fun item =>
    match field "path" item with
    | some (.str path) => some path
    | _ => none
  | _ => []

def stalePaths (old : Json F) (written : List Written) : List String :=
  sortedSet ((oldPaths old).filter fun path => !(written.map (·.relative.text)).contains path)

end

def backupPath (parts : Path) : Path := temporaryPath ("backups" :: parts)

def stagedManifest : Path := temporaryPath ["manifest.json"]

def oldManifest : Path := temporaryPath ["old-manifest.json"]

def manifestPath (stage : Stage) : Path := outputPath [".stage-manifests", stage.text ++ ".json"]

def setAside (parts : Path) : Publishing Unit := do
  makeDirectories (backupPath parts).dropLast
  move (outputPath parts) (backupPath parts)
  modify fun progress =>
    { progress with backups := progress.backups ++ [(outputPath parts, backupPath parts)] }

def setAsideExisting (parts : Path) : Publishing Unit := do
  if ← exists_ (outputPath parts) then setAside parts

def setAsideStale (path : String) : Publishing Unit := do
  let relative ← check (safeRelative path)
  setAsideExisting relative.parts

def isPrivate (relative : Relative) : Bool := Text.endsWith relative.text ".private.jsonl"

/-- Artifacts with bodies of the provider stay private. -/
def restrictPrivate (written : Written) : Publishing Unit :=
  if isPrivate written.relative then
    perform (.chmod written.destination) fun tree =>
      if tree.node written.destination = none then none else some tree
  else pure ()

def publishArtifact (written : Written) : Publishing Unit := do
  makeDirectories written.destination.dropLast
  setAsideExisting written.relative.parts
  move written.staged written.destination
  restrictPrivate written
  modify fun progress => { progress with published := progress.published ++ [written.destination] }

def setManifestAside (stage : Stage) : Publishing Unit := do
  if ← exists_ (manifestPath stage) then
    modify fun progress => { progress with manifestBackup := some oldManifest }
    move (manifestPath stage) oldManifest
    modify fun progress => { progress with manifestTouched := true }

def swapManifest (stage : Stage) : Publishing Unit := do
  makeDirectories (manifestPath stage).dropLast
  setManifestAside stage
  modify fun progress => { progress with manifestTouched := true }
  move stagedManifest (manifestPath stage)
  perform (.sync (outputPath [])) some

def replaceArtifacts (stage : Stage) (stale : List String) (written : List Written) :
    Publishing Unit := do
  stale.forM setAsideStale
  written.forM publishArtifact
  swapManifest stage

def restore (backup : Path × Path) : Publishing Unit := do
  if ← exists_ backup.2 then
    makeDirectories backup.1.dropLast
    move backup.2 backup.1

def hasManifestBackup : Publishing Bool := do
  match (← get).manifestBackup with
  | some backup => exists_ backup
  | none => pure false

def restoreManifest (stage : Stage) : Publishing Unit := do
  if ← hasManifestBackup then
    unlink (manifestPath stage)
    move oldManifest (manifestPath stage)
  else if (← get).manifestTouched then
    unlink (manifestPath stage)

def rollback (stage : Stage) : Publishing Unit := do
  (← get).published.forM unlink
  (← get).backups.reverse.forM restore
  restoreManifest stage

/-- Runs a handler where the body raises; the body's error stands unless the handler raises. -/
def handled (body handler : Publishing Unit) : Publishing Unit := fun progress =>
  match body progress with
  | .ok _ after => .ok () after
  | .error raised broken =>
    match handler broken with
    | .ok _ after => .error raised after
    | .error second after => .error second after

variable {F : Type} [FloatText F]

/-- The part of `_publish` that is done while the temporary directory stands. -/
def publishStaged (settings : Settings F) (stage : Stage) (fingerprint : Json F)
    (normalized : List (Relative × Payload F)) (metadata : Members F)
    (times : StageTimes F) (old : Json F) : Publishing (Json F) := do
  let written ← stageArtifacts settings (sortArtifacts normalized)
  let manifest := manifestJson settings stage fingerprint written metadata times
  check (require (encodable settings.recursionLimit manifest)
    (.valueError "The manifest is not strict canonical JSON."))
  perform (.write stagedManifest) fun tree =>
    tree.write stagedManifest (canonicalJson manifest ++ [10])
  handled (replaceArtifacts stage (stalePaths old written) written) (rollback stage)
  return manifest

def publishTree (settings : Settings F) (stage : Stage) (fingerprint : Json F)
    (output : StageOutput F) (times : StageTimes F) (old : Json F) : Publishing (Json F) := do
  check (require (!output.artifacts.isEmpty) (artifactError "ARTIFACT_EMPTY_STAGE"
    "A completed stage must publish an artifact." [("stage", .str stage.text)]))
  let normalized ← normalizeArtifacts settings.shown output.artifacts []
  perform .makeTemporary fun tree => tree.mkdir (temporaryPath [])
  publishStaged settings stage fingerprint normalized output.metadata times old

/-- The files of the output root, the stages of the run and the manifests of earlier runs. -/
structure Publication (F : Type) where
  tree : FileTree
  stages : Members F
  prior : Members F

def setMember (key : String) (value : Json F) : Members F → Members F
  | [] => [(key, value)]
  | member :: members =>
    if member.1 = key then (key, value) :: members else member :: setMember key value members

def priorManifest (prior : Members F) (stage : Stage) : Json F :=
  (field stage.text (.obj prior)).getD (.obj [])

def withoutTemporary (tree : FileTree) : FileTree :=
  tree.removeTree (temporaryPath []) (List.cons_ne_nil _ _)

def publish (settings : Settings F) (stage : Stage) (fingerprint : Json F)
    (output : StageOutput F) (times : StageTimes F) (fault : Option Fault) :
    EStateM Raised (Publication F) Unit := fun state =>
  match publishTree settings stage fingerprint output times (priorManifest state.prior stage)
      { tree := state.tree, fault := fault } with
  | .ok manifest progress =>
    .ok () {
      tree := withoutTemporary progress.tree
      stages := setMember stage.text manifest state.stages
      prior := setMember stage.text manifest state.prior }
  | .error raised progress => .error raised { state with tree := withoutTemporary progress.tree }

end DosWeb.Pipeline
