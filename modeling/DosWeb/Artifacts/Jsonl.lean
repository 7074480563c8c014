import DosWeb.Identifiers
import DosWeb.Library.JsonSize

namespace DosWeb.Artifacts

open Library Library.JsonValue Library.JsonText Library.JsonSize Identifiers

def maxRecords : Nat := 4096

def maxRecordBytes : Nat := 262144

def maxTotalBytes : Nat := 16 * 1024 * 1024

def maxDepth : Nat := 32

def maxNodes : Nat := 8192

def maxCollection : Nat := 4096

def maxStringBytes : Nat := 262144

section

variable {F : Type}

/-- A value of dictionaries, lists and scalars; the keys of a dictionary are distinct. -/
abbrev Record (F : Type) := { value : Json F // DistinctKeys value }

inductive Payload (F : Type) where
  | text (value : String)
  | bytes (data : List UInt8)
  | records (items : List (Record F))

def artifactError (code message : String) (details : Members Empty) : Raised :=
  .analyzer ⟨code, message, details⟩

def atLine (number : Nat) : Members Empty := [("line", .int number)]

/-- The interpreter's encoder and decoder give up beyond this nesting. -/
def nestsWithin (recursionLimit : Nat) (value : Json F) : Bool :=
  (spread 0 value).all fun node => node.2 ≤ recursionLimit

def isObject : Json F → Bool
  | .obj _ => true
  | _ => false

/-- The lines of a byte string, where a last line needs no end. -/
def countLines (data : List UInt8) : Nat :=
  data.count 10 + if data ≠ [] ∧ data.getLast? ≠ some 10 then 1 else 0

/-- The bounds on a single node: of a text its bytes, of a collection its size. -/
def nodeFits : Json F → Bool
  | .str text => (Text.utf8 text.toList).length ≤ maxStringBytes
  | .arr items => items.length ≤ maxCollection
  | .obj members => members.length ≤ maxCollection
  | _ => true

def children : Json F → List (Json F)
  | .arr items => items
  | .obj members => members.map Prod.snd
  | _ => []

theorem spread_children (depth : Nat) (value : Json F) :
    spread depth value = (value, depth) :: (children value).flatMap (spread (depth + 1)) := by
  cases value <;> simp [spread, children, spreadItems_eq, spreadMembers_eq, List.flatMap_map]

/-- Takes the nodes off a stack, each with its nesting, and counts them. -/
def checkStack (nodes : Nat) : List (Json F × Nat) → Bool
  | [] => true
  | (current, depth) :: stack =>
    if depth > maxDepth ∨ nodes + 1 > maxNodes then false
    else if nodeFits current then
      checkStack (nodes + 1)
        (((children current).map fun item => (item, depth + 1)).reverse ++ stack)
    else false
termination_by stack => (stack.map fun node => (spread node.2 node.1).length).sum
decreasing_by
  rw [List.map_cons, List.sum_cons, spread_children depth current]
  simp [List.length_flatMap, Function.comp_def]

def checkArtifactValue (value : Json F) : Bool := checkStack 0 [(value, 0)]

variable [FloatText F]

/-- Values with numbers that have no text, or nested too deeply, are not encoded. -/
def encodable (recursionLimit : Nat) (value : Json F) : Bool :=
  printable maxIntegerDigits value && nestsWithin recursionLimit value

def encodeRecord (recursionLimit number : Nat) (record : Record F) : Checked (List UInt8) := do
  require (isObject record.1) (artifactError "ARTIFACT_INVALID_RECORD"
    "Stage records must be mappings." (atLine number))
  require (encodable recursionLimit record.1) (artifactError "ARTIFACT_INVALID_RECORD"
    "Stage record is not strict canonical JSON." (atLine number))
  require ((canonicalJson record.1).length ≤ maxRecordBytes)
    (artifactError "ARTIFACT_LIMIT_EXCEEDED" "Stage record exceeds its byte limit." (atLine number))
  return canonicalJson record.1 ++ [10]

/-- The encoded records, numbered from the given line on. -/
def encodeRecords (recursionLimit : Nat) : Nat → List (Record F) → Checked (List (List UInt8))
  | _, [] => .ok []
  | number, record :: records => do
      let line ← encodeRecord recursionLimit number record
      let lines ← encodeRecords recursionLimit (number + 1) records
      return line :: lines

/-- The bytes of a payload with the number of its lines or records. -/
def payloadData (recursionLimit : Nat) : Payload F → Checked (List UInt8 × Nat)
  | .text value =>
    let data := Text.utf8 value.toList
    .ok (data, countLines data)
  | .bytes data => .ok (data, countLines data)
  | .records items => do
      require (items.length ≤ maxRecords) (artifactError "ARTIFACT_LIMIT_EXCEEDED"
        "Stage contains too many records." [])
      let lines ← encodeRecords recursionLimit 1 items
      return (lines.flatten, lines.length)

def encodePayload (recursionLimit : Nat) (payload : Payload F) : Checked (List UInt8 × Nat) := do
  let encoded ← payloadData recursionLimit payload
  require (encoded.1.length ≤ maxTotalBytes && encoded.2 ≤ maxRecords) (artifactError
    "ARTIFACT_LIMIT_EXCEEDED" "Stage artifact exceeds configured limits." [])
  return encoded

def isSpace (c : Char) : Bool :=
  (9 ≤ c.toNat && c.toNat ≤ 13) || (28 ≤ c.toNat && c.toNat ≤ 32) || c.toNat = 0x85 ||
    c.toNat = 0xa0 || c.toNat = 0x1680 || (0x2000 ≤ c.toNat && c.toNat ≤ 0x200a) ||
    c.toNat = 0x2028 || c.toNat = 0x2029 || c.toNat = 0x202f || c.toNat = 0x205f || c.toNat = 0x3000

def parseLine (recursionLimit : Nat) (line : List Char) : Option (Json F) :=
  (loads maxIntegerDigits line).filter fun value =>
    nestsWithin recursionLimit value && checkArtifactValue value

def readLine (recursionLimit : Nat) (artifactName sourceName : String) (number : Nat)
    (rawLine : List UInt8) : Checked (Json F) := do
  let details : Members Empty :=
    [("path", .str sourceName), ("line", .int number), ("artifact_name", .str artifactName)]
  require (rawLine.length ≤ maxRecordBytes) (artifactError "ARTIFACT_LIMIT_EXCEEDED"
    "Artifact JSONL exceeds configured limits." details)
  match Bytes.decodeUtf8 rawLine with
  | none => .error (artifactError "ARTIFACT_INVALID_JSON" "Artifact JSONL is not valid UTF-8." details)
  | some line => do
      require (!line.all isSpace) (artifactError "ARTIFACT_INVALID_JSON"
        "Artifact JSONL must not contain blank records." details)
      match parseLine recursionLimit line with
      | none => .error (artifactError "ARTIFACT_INVALID_JSON"
          "Artifact JSONL contains invalid JSON." details)
      | some record => do
          require (isObject record) (artifactError "ARTIFACT_RECORD_NOT_OBJECT"
            "Artifact records must be JSON objects." details)
          return record

def readLines (recursionLimit : Nat) (artifactName sourceName : String) :
    Nat → List (List UInt8) → Checked (List (Json F))
  | _, [] => .ok []
  | number, line :: lines => do
      let record ← readLine recursionLimit artifactName sourceName number line
      let records ← readLines recursionLimit artifactName sourceName (number + 1) lines
      return record :: records

def readJsonlBytesStrict (recursionLimit : Nat) (payload : List UInt8)
    (artifactName sourceName : String) : Checked (List (Json F)) := do
  let details : Members Empty := [("path", .str sourceName), ("artifact_name", .str artifactName)]
  require (payload.length ≤ maxTotalBytes) (artifactError "ARTIFACT_LIMIT_EXCEEDED"
    "Artifact JSONL exceeds configured limits." details)
  require ((Bytes.splitLines payload).length ≤ maxRecords) (artifactError
    "ARTIFACT_LIMIT_EXCEEDED" "Artifact JSONL exceeds configured limits." details)
  readLines recursionLimit artifactName sourceName 1 (Bytes.splitLines payload)

end

variable {F : Type}

/-- Every node of the value is within the reader's bounds on a single node. -/
def NodesFit (depth : Nat) (value : Json F) : Prop :=
  ∀ node ∈ spread depth value, node.2 ≤ maxDepth ∧ nodeFits node.1 = true

theorem nodes_fit_children (depth : Nat) (value : Json F) :
    NodesFit depth value ↔ (depth ≤ maxDepth ∧ nodeFits value = true) ∧
      ∀ item ∈ children value, NodesFit (depth + 1) item := by
  unfold NodesFit
  rw [spread_children, List.forall_mem_cons]
  simp only [List.mem_flatMap]
  refine and_congr Iff.rfl ⟨fun all item member node inside => all node ⟨item, member, inside⟩, ?_⟩
  rintro all node ⟨item, member, inside⟩
  exact all item member node inside

/-- How many nodes the values on a stack have together. -/
def pending (stack : List (Json F × Nat)) : Nat :=
  (stack.map fun node => (spread node.2 node.1).length).sum

theorem pending_children (depth : Nat) (value : Json F) (stack : List (Json F × Nat)) :
    pending ((value, depth) :: stack) =
      1 + pending (((children value).map fun item => (item, depth + 1)).reverse ++ stack) := by
  simp only [pending, List.map_cons, List.sum_cons, List.map_append, List.sum_append,
    List.map_reverse, List.sum_reverse, List.map_map]
  rw [spread_children, List.length_cons, List.length_flatMap]
  simp only [Function.comp_def]
  omega

theorem check_stack_iff (nodes : Nat) (stack : List (Json F × Nat)) (fits : nodes ≤ maxNodes) :
    checkStack nodes stack = true ↔
      nodes + pending stack ≤ maxNodes ∧ ∀ node ∈ stack, NodesFit node.2 node.1 := by
  fun_induction checkStack nodes stack with
  | case1 nodes => simpa [pending] using fits
  | case2 nodes current depth stack exceeded =>
    refine iff_of_false (by simp) ?_
    rintro ⟨counted, all⟩
    rw [pending_children] at counted
    have own := ((nodes_fit_children depth current).mp (all _ (.head _))).1.1
    omega
  | case3 nodes current depth stack within fit ih =>
    rw [ih (by omega), pending_children, List.forall_mem_cons, nodes_fit_children]
    simp only [List.mem_append, List.mem_reverse, List.mem_map]
    constructor
    · rintro ⟨counted, all⟩
      refine ⟨by omega, ⟨⟨by omega, fit⟩, fun item member => ?_⟩, fun node member => ?_⟩
      · exact all (item, depth + 1) (Or.inl ⟨item, member, rfl⟩)
      · exact all node (Or.inr member)
    · rintro ⟨counted, ⟨_, inner⟩, rest⟩
      refine ⟨by omega, ?_⟩
      rintro node (⟨item, member, rfl⟩ | member)
      · exact inner item member
      · exact rest node member
  | case4 nodes current depth stack within unfit =>
    refine iff_of_false (by simp) ?_
    rintro ⟨_, all⟩
    exact unfit ((nodes_fit_children depth current).mp (all _ (.head _))).1.2

theorem check_artifact_value_iff (value : Json F) : checkArtifactValue value = true ↔
      (spread 0 value).length ≤ maxNodes ∧ NodesFit 0 value := by
  unfold checkArtifactValue
  rw [check_stack_iff 0 _ (Nat.zero_le _)]
  simp [pending]

end DosWeb.Artifacts
