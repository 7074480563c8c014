import DosWeb.Library.Steps
import DosWeb.Pipeline.Paths

/-!
The publication of an aggregation into its batch root, one file-system step after another, and the
recovery that runs before it. A file holds bytes or the text of a JSON document. Temporary files,
which nothing reads again, are left out, and so is the lock that keeps other aggregations away.
-/

namespace DosWeb.Aggregate

open Library.JsonValue
open Pipeline (pathParts)
open Function (update)

inductive Content where
  | data (bytes : List UInt8)
  | document (value : PlainJson)
  deriving DecidableEq

inductive Target where
  | missing
  | file (content : Content)
  | directory
  deriving DecidableEq

inductive Node where
  | file (content : Content)
  | link (target : Target)
  | directory
  deriving DecidableEq

def Node.exists_ : Node → Bool
  | .link .missing => false
  | _ => true

def Node.content : Node → Option Content
  | .file content => some content
  | _ => none

/-- A batch root: its entries, and the directories of `.aggregate-generations` with their files. -/
structure Root where
  entries : String → Option Node
  generations : String → Option (String → Option Content)

def ownerName : String := ".aggregate-owned.json"

def currentName : String := ".aggregate-current.json"

def generationsName : String := ".aggregate-generations"

def manifestName : String := "generation_manifest.json"

namespace Root

variable (root : Root)

def exists_ (name : String) : Bool := (root.entries name).any Node.exists_

def contentOf (name : String) : Option Content := (root.entries name).bind Node.content

def fileAt : List String → Option Content
  | [name] => root.contentOf name
  | [top, generation, name] =>
    if top = generationsName then (root.generations generation).bind fun files => files name
    else none
  | _ => none

def readJson (path : List String) : Option PlainJson :=
  match root.fileAt path with
  | some (.document value) => some value
  | _ => none

def write (name : String) (content : Content) : Root :=
  { root with entries := update root.entries name (some (.file content)) }

@[simp] theorem write_self (name : String) (content : Content) :
    (root.write name content).entries name = some (.file content) := Function.update_self _ _ _

theorem write_other (name other : String) (content : Content) (differ : other ≠ name) :
    (root.write name content).entries other = root.entries other := Function.update_of_ne differ _ _

/-- Puts a file in the place of whatever is no directory. -/
def put (name : String) (content : Content) : Option Root :=
  if root.entries name = some .directory then none else some (root.write name content)

def makeDirectory (directory : String) : Option Root :=
  if (root.generations directory).isSome then none
  else some { root with generations := update root.generations directory (some fun _ => none) }

def putIn (directory name : String) (content : Content) : Option Root :=
  (root.generations directory).map fun files =>
    { root with
      generations := update root.generations directory (some (update files name (some content))) }

def rename (source target : String) : Option Root :=
  match root.generations source, root.generations target with
  | some files, none =>
    some { root with
      generations := update (update root.generations source none) target (some files) }
  | _, _ => none

def removeTree (directory : String) : Option Root :=
  some { root with generations := update root.generations directory none }

theorem put_some (name : String) (content : Content) (free : root.entries name ≠ some .directory) :
    root.put name content = some (root.write name content) := if_neg free

theorem make_directory_some (directory : String) (missing : root.generations directory = none) :
    root.makeDirectory directory =
      some { root with generations := update root.generations directory (some fun _ => none) } := by
  simp [makeDirectory, missing]

theorem put_in_some (directory name : String) (content : Content)
    (files : String → Option Content) (stored : root.generations directory = some files) :
    root.putIn directory name content =
      some { root with
        generations :=
          update root.generations directory (some (update files name (some content))) } := by
  simp [putIn, stored]

theorem rename_some (source target : String) (files : String → Option Content)
    (stored : root.generations source = some files) (vacant : root.generations target = none) :
    root.rename source target =
      some { root with
        generations := update (update root.generations source none) target (some files) } := by
  simp [rename, stored, vacant]

end Root

inductive Format where
  | historical
  | p0
  deriving DecidableEq

def Format.text : Format → String
  | .historical => "historical"
  | .p0 => "p0"

/-- The outputs of a format, in the order in which they are written. -/
def outputNames : Format → List String
  | .historical => [
      "aggregate_target_profiles.jsonl", "aggregate_sinks.jsonl", "aggregate_sources.jsonl",
      "aggregate_flows.jsonl", "aggregate_findings.jsonl", "aggregate_rejected.jsonl",
      "aggregate_subagent_reviews.jsonl", "aggregate_status.jsonl", "aggregate_inventory.json",
      "batch_summary.md", "aggregate_gaps.md", "batch_quality_report.md"]
  | .p0 => ["aggregate_entries.jsonl", "aggregate_entry_gaps.jsonl",
      "aggregate_entry_interpositions.jsonl", "aggregate_entry_security_facts.jsonl",
      "aggregate_modeled_configuration.jsonl", "aggregate_growth_candidates.jsonl",
      "aggregate_candidate_entry_links.jsonl", "aggregate_candidate_negative_proofs.jsonl",
      "aggregate_candidate_dispositions.jsonl", "aggregate_repeatability_decisions.jsonl",
      "aggregate_amplification_decisions.jsonl", "aggregate_growth_contracts.jsonl",
      "aggregate_verified_growth.jsonl", "aggregate_auth_contracts.jsonl",
      "aggregate_reachability_decisions.jsonl", "aggregate_flows.jsonl",
      "aggregate_guard_candidates.jsonl", "aggregate_bounds.jsonl", "aggregate_releases.jsonl",
      "aggregate_lifecycle_evidence.jsonl", "aggregate_lifecycle_coverage.jsonl",
      "aggregate_lifecycle_summaries.jsonl", "aggregate_lifecycle_results.jsonl",
      "aggregate_findings.jsonl", "aggregate_finding_families.jsonl",
      "aggregate_lifecycle_certificates.jsonl", "aggregate_status.jsonl",
      "aggregate_inventory.json", "batch_summary.md", "aggregate_gaps.md",
      "batch_quality_report.md"]

/-- What an aggregation has computed: its format and the bytes of each output. -/
structure Staging where
  format : Format
  bytes : String → List UInt8

def Staging.outputs (staging : Staging) : List (String × Content) :=
  (outputNames staging.format).map fun name => (name, .data (staging.bytes name))

/-- The random names of an aggregation: its pending directory and its generation. -/
structure Names where
  token : String
  uuid : String
  hex : ∀ c ∈ uuid.toList, c.isAlphanum

def Names.pending (names : Names) : String := ".pending-" ++ names.token

def Names.generation (names : Names) : String := "generation-" ++ names.uuid

/-- The digest of files, and how a path of the batch root is shown. -/
structure Aggregator where
  sha256 : Content → String
  shown : String → String

def ownerDocument : PlainJson :=
  .obj [("owner", .str "dosweb.batch.aggregate"), ("version", .int 1)]

def isOwnerDocument : Content → Bool
  | .document (.obj members) =>
    members.length == 2 &&
      field "owner" (.obj members) == some (.str "dosweb.batch.aggregate" : PlainJson) &&
      [some (.int 1 : PlainJson), some (.bool true)].contains (field "version" (.obj members))
  | _ => false

def manifestText (generation : String) : String :=
  "/".intercalate [generationsName, generation, manifestName]

def pointerDocument (generation : String) : PlainJson :=
  .obj [("generation", .str generation), ("manifest", .str (manifestText generation))]

/-- The parts of a path of the batch root; nothing on its way is a symbolic link. -/
def resolve (raw : String) : Option (List String) :=
  if raw.toList.head? = some '/' ∨ pathParts raw = [] ∨ ".." ∈ pathParts raw then none
  else some (pathParts raw)

/-- A text; `str` of any other value names nothing below the generations. -/
def textOf : PlainJson → Option String
  | .str text => some text
  | _ => none

def membersOf : PlainJson → Option (Members Empty)
  | .obj members => some members
  | _ => none

/-- Why an aggregation stops: it is killed, or it raises. -/
inductive Stop where
  | crash
  | raised (raised : Raised)

/-- A batch root and the steps that are left until a crash, if one comes. -/
structure Disk where
  root : Root
  left : Option Nat

abbrev Aggregating := EStateM Stop Disk

def refuse {α : Type} (message : String) : Aggregating α := throw (.raised (.valueError message))

def perform (effect : Root → Option Root) : Aggregating Unit := fun disk =>
  if disk.left = some 0 then .error .crash disk
  else
    match effect disk.root with
    | none => .error (.raised (.osError "The operation failed.")) disk
    | some root => .ok () ⟨root, disk.left.map (· - 1)⟩

/-- Goes on after an exception of the body; a crash ends everything. -/
def rescued (body : Aggregating Unit) (handler : Raised → Aggregating Unit) : Aggregating Unit :=
  fun disk =>
    match body disk with
    | .error (.raised raised) after => handler raised after
    | result => result

variable (aggregator : Aggregator)

def plainName (name : String) : Bool := !name.toList.contains '/' && name != "."

/-- The files of the generation that the pointer names, with their digests, if all are intact. -/
def recoverySources (root : Root) : Option (List (String × String × Content)) := do
  let document ← root.readJson [currentName]
  let raw ← field "manifest" document >>= textOf
  let path ← resolve raw
  let generation ← root.readJson path
  let files ← field "files" generation >>= membersOf
  files.mapM fun file => do
    let digest ← textOf file.2
    guard (plainName file.1)
    let content ← root.fileAt (path.dropLast ++ [file.1])
    guard (aggregator.sha256 content = digest)
    return (file.1, digest, content)

/-- Whether the root has an output as the digest says. -/
def intact (root : Root) (name digest : String) : Bool :=
  (root.contentOf name).any fun content => aggregator.sha256 content = digest

def restore (source : String × String × Content) : Aggregating Unit := do
  if !intact aggregator (← get).root source.1 source.2.1 then
    perform fun root => root.put source.1 source.2.2

def recoverPublication : Aggregating Unit := do
  match recoverySources aggregator (← get).root with
  | none => pure ()
  | some sources => rescued (sources.forM (restore aggregator)) fun _ => pure ()

/-- The files of an aggregation with their digests, in the order of their names. -/
def stagedHashes (staging : Staging) : Members Empty :=
  (staging.outputs.mergeSort fun left right => left.1 ≤ right.1).map fun output =>
    (output.1, .str (aggregator.sha256 output.2))

def manifestDocument (staging : Staging) (generation : String) : PlainJson :=
  .obj [("files", .obj (stagedHashes aggregator staging)), ("format", .str staging.format.text),
    ("generation", .str generation)]

/-- Whether an output is missing or holds the prior or the staged content. -/
def accounted (root : Root) (prior : Members Empty) (output : String × Content) : Bool :=
  !root.exists_ output.1 ||
    (root.contentOf output.1).any fun content =>
      prior.lookup output.1 == some (.str (aggregator.sha256 content)) ||
        aggregator.sha256 content == aggregator.sha256 output.2

/-- The check that the prior generation attests every output that is there. -/
def ownershipProven (root : Root) (staging : Staging) : Option Unit := do
  let pointer ← root.readJson [currentName]
  let raw ← field "manifest" pointer >>= textOf
  let path ← resolve raw
  guard (path.dropLast.dropLast = [generationsName])
  let manifest ← root.readJson path
  let prior ← field "files" manifest >>= membersOf
  let format ← field "format" manifest >>= textOf
  guard (format ∈ [Format.historical.text, Format.p0.text])
  guard (staging.outputs.all (accounted aggregator root prior))
  guard (format = staging.format.text ∨
    ∀ file ∈ prior, file.1 ∈ outputNames staging.format ∨ root.exists_ file.1 = false)

def isOwned (root : Root) : Aggregating Bool :=
  if root.exists_ ownerName then
    match root.contentOf ownerName with
    | none => refuse ".aggregate-owned.json is not a regular file"
    | some content =>
      if isOwnerDocument content then pure true
      else refuse ".aggregate-owned.json is not provably owned by this aggregator"
  else pure false

def checkOwnership (staging : Staging) : Aggregating Unit := do
  let root := (← get).root
  if ← isOwned root then
    -- the pointer's `get` is called outside of what the check expects to fail
    if (root.readJson [currentName]).any fun pointer => (membersOf pointer).isNone then
      refuse "the aggregate pointer has no attribute 'get'"
    if ownershipProven aggregator root staging = none ∧
        (outputNames staging.format).any root.exists_ then
      refuse "cannot prove ownership of existing aggregate outputs"
  else
    match (outputNames staging.format ++ [currentName]).find? root.exists_ with
    | none => pure ()
    | some name => refuse ("refusing to replace unknown pre-existing aggregate output: " ++
        aggregator.shown name)

/-- Writes the files of a new generation and gives its directory its name. -/
def stageGeneration (staging : Staging) (names : Names) : Aggregating Unit := do
  staging.outputs.forM fun output =>
    perform fun root => root.putIn names.pending output.1 output.2
  perform fun root => root.putIn names.pending manifestName
    (.document (manifestDocument aggregator staging names.generation))
  perform fun root => root.rename names.pending names.generation

def publishOutput (output : String × Content) : Aggregating Unit := do
  let root := (← get).root
  if root.exists_ output.1 && (root.contentOf output.1).isNone then
    refuse ("aggregate output is not a regular file: " ++ aggregator.shown output.1)
  perform fun root => root.put output.1 output.2

/-- Publishes the outputs before the pointer and the pointer before the marker. -/
def publishGeneration (staging : Staging) (names : Names) : Aggregating Unit := do
  perform fun root => root.makeDirectory names.pending
  rescued (stageGeneration aggregator staging names) fun raised => do
    perform fun root => root.removeTree names.pending
    throw (.raised raised)
  staging.outputs.forM (publishOutput aggregator)
  perform fun root => root.put currentName (.document (pointerDocument names.generation))
  perform fun root => root.put ownerName (.document ownerDocument)

def publishOutputsUnlocked (staging : Staging) (names : Names) : Aggregating Unit := do
  checkOwnership aggregator staging
  publishGeneration aggregator staging names

def publishOutputs (staging : Staging) (names : Names) : Aggregating Unit := do
  recoverPublication aggregator
  publishOutputsUnlocked aggregator staging names

end DosWeb.Aggregate
