import DosWeb.CanonicalJson
import DosWeb.Decoding
import DosWeb.Library.Mapping
import DosWeb.Production.Screening

/-!
The records of guard, bound and release candidates: what a candidate is created of, how it is
written, and which records are read back.
-/

namespace DosWeb.Production

open Library.JsonValue Library.JsonRecord Library.JsonText Identifiers
open Lifecycle (lifecycleInvalid lifecycleEvidence)

inductive FieldKind where
  | text
  | flag
  deriving DecidableEq

inductive Attribute where
  | text (value : String)
  | flag (value : Bool)
  deriving DecidableEq

def Attribute.json {F : Type} : Attribute → Json F
  | .text value => .str value
  | .flag value => .bool value

/-- The names that a record of a candidate keeps for something else than a field. -/
def reservedNames : List String := ["site", "site_file", "site_start_line", "evidence", "cls"]

/-- A class of candidates: the texts and flags that its constructor reads, in that order, and
whether its module imports the error that its decoder raises. -/
structure Codec where
  lead : String
  idField : String
  noun : String
  fields : List (String × FieldKind)
  imported : Bool
  distinct : (fields.map Prod.fst).Nodup
  free : ∀ name ∈ fields.map Prod.fst, name ∉ reservedNames
  idFree : idField ∉ reservedNames ∧ idField ∉ fields.map Prod.fst

def guardCodec : Codec where
  lead := "guard"
  idField := "guard_id"
  noun := "Guard"
  fields := [("kind", .text), ("resource_dimension", .text), ("scope", .text), ("behavior", .text),
    ("dominates_growth", .flag), ("reject_path_reaches_growth", .flag),
    ("configuration_key", .text), ("configuration_value", .text), ("representation", .text),
    ("phase", .text), ("covers_materialization", .flag), ("authorization_only", .flag),
    ("coverage_status", .text)]
  imported := true
  distinct := by decide
  free := by decide
  idFree := by decide

def boundCodec : Codec where
  lead := "bound"
  idField := "bound_id"
  noun := "Bound"
  fields := [("kind", .text), ("resource_dimension", .text), ("scope", .text), ("behavior", .text),
    ("receiver", .text), ("field_path", .text), ("result_checked", .flag),
    ("configuration_key", .text), ("configuration_value", .text), ("phase", .text),
    ("covers_flow", .flag), ("request_encoding", .text), ("queue_resource", .text),
    ("product_bound", .flag), ("coverage_status", .text)]
  imported := true
  distinct := by decide
  free := by decide
  idFree := by decide

def releaseCodec : Codec where
  lead := "release"
  idField := "release_id"
  noun := "Release"
  fields := [("kind", .text), ("resource_dimension", .text), ("scope", .text), ("receiver", .text),
    ("key_identity", .text), ("synchronous", .flag), ("normal_path", .flag),
    ("exceptional_path", .flag), ("actual_reduction", .flag), ("after_growth", .flag),
    ("transfer_only", .flag), ("async_kind", .text), ("coverage_status", .text)]
  imported := false
  distinct := by decide
  free := by decide
  idFree := by decide

/-- A candidate, with its texts and flags in the order of its class. -/
structure Candidate where
  identifier : String
  siteFile : String
  siteStartLine : Int
  attributes : List Attribute
  evidence : List String
  deriving DecidableEq

def invalidCandidate (message : String) : Fault := .raised (lifecycleInvalid message)

/-- What the decoder of a class raises where it refuses a record. -/
def Codec.failure (codec : Codec) (message : String) : Fault :=
  if codec.imported then invalidCandidate message else .nameError "AnalyzerError"

section

variable {F : Type}

def member (values : Members F) (key : String) : Decoded (Json F) :=
  match present values key with
  | some value => .ok value
  | none => .error (.keyError key)

def readSite (file line : Json F) : Decoded (String × Int) :=
  match file with
  | .str path =>
    if sitePathValid path then
      match line with
      | .int number =>
        if 0 < number then .ok (path, number)
        else .error (invalidCandidate "Lifecycle candidate line is invalid.")
      | _ => .error (invalidCandidate "Lifecycle candidate line is invalid.")
    else .error (invalidCandidate "Lifecycle candidate path is invalid.")
  | _ => .error (invalidCandidate "Lifecycle candidate path is invalid.")

def isNull : Json F → Bool
  | .null => true
  | _ => false

/-- The distinct texts of a list in order. A list of values that have no hash, or that do not
compare, does not come to the check of its items. -/
def readEvidence (listed : Json F) : Decoded (List String) :=
  match listed with
  | .arr items =>
    if items = [] ∨ 64 < items.length then
      .error (invalidCandidate "Lifecycle evidence is invalid.")
    else
      match items.mapM plainText with
      | some texts => lifted (lifecycleEvidence texts)
      | none =>
        if items.all isNumber || items.all isNull then
          .error (invalidCandidate "Lifecycle evidence is invalid.")
        else .error .typeError
  | _ => .error (invalidCandidate "Lifecycle evidence is invalid.")

variable (str : Json F → String)

/-- A text field takes the text of any value; a flag has to be a boolean. -/
def readField (values : Members F) (field : String × FieldKind) : Decoded Attribute := do
  let value ← member values field.1
  match field.2 with
  | .text => .ok (.text (str value))
  | .flag =>
    match boolOf value with
    | some flag => .ok (.flag flag)
    | none =>
      .error (invalidCandidate ("Lifecycle field " ++ field.1 ++ " must be a boolean."))

def readFields (values : Members F) : List (String × FieldKind) → Decoded (List Attribute)
  | [] => .ok []
  | field :: fields => do
      let own ← readField str values field
      let others ← readFields values fields
      return own :: others

end

variable {F : Type} [FloatText F]

def identifierText (lead : String) (identity : Members F) : String :=
  lead ++ ":" ++ String.ofList ((sha256CanonicalJson (.obj identity)).toList.take 24)

/-- The identifier of an identity; an integer of too many digits has no text. -/
def identifierOf (lead : String) (identity : Members F) : Decoded String :=
  if printable maxIntegerDigits (.obj identity : Json F) then .ok (identifierText lead identity)
  else .error (.raised (.valueError
    "Exceeds the limit (4300 digits) for integer string conversion"))

/-- The values with the site and the evidence as they were read. -/
def semantic (values : Members F) (file : String) (line : Int) (evidence : List String) :
    Members F := put "evidence" (.arr (evidence.map .str))
    (put "site_start_line" (.int line) (put "site_file" (.str file) values))

variable (codec : Codec) (str : Json F → String)

def create (values : Members F) : Decoded Candidate := do
  let file ← member values "site_file"
  let line ← member values "site_start_line"
  let site ← readSite file line
  let listed ← member values "evidence"
  let evidence ← readEvidence listed
  let identifier ← identifierOf codec.lead (semantic values site.1 site.2 evidence)
  let attributes ← readFields str values codec.fields
  return ⟨identifier, site.1, site.2, attributes, evidence⟩

def toDict (candidate : Candidate) : Members F := [(codec.idField, .str candidate.identifier),
    ("site", .obj [("file", .str candidate.siteFile),
      ("start_line", .int candidate.siteStartLine)]),
    ("evidence", .arr (candidate.evidence.map .str))] ++
  (codec.fields.map Prod.fst).zip (candidate.attributes.map Attribute.json)

def recordValues (record site : Members F) : Members F := remove "site" (remove codec.idField
    (put "site_start_line" (get site "start_line") (put "site_file" (get site "file") record)))

variable [DecidableEq F]

def fromDict (record : Members F) : Decoded Candidate :=
  match objectOf (get record "site") with
  | none => .error (codec.failure (codec.noun ++ " candidate site is malformed."))
  | some site =>
    -- a keyword of that name is the second value of the class itself
    if "cls" ∈ record.map Prod.fst then .error .typeError
    else do
      let candidate ← create codec str (recordValues codec record site)
      if get record codec.idField = .str candidate.identifier then .ok candidate
      else .error (codec.failure (codec.noun ++ " candidate identifier is not canonical."))

end DosWeb.Production
