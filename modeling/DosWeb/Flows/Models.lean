import DosWeb.Growth.Verify

namespace DosWeb.Flows

open Library Identifiers
open Entries (FieldText CoverageStatus validText)
open Growth (DemandRole)

inductive AttackerTarget where
  | size
  | key
  | value
  | iterationCount
  | submissionCount
  deriving DecidableEq

inductive FlowConfidence where
  | proven
  | partialProof
  deriving DecidableEq

def AttackerTarget.role : AttackerTarget → DemandRole
  | .size => .size
  | .key => .key
  | .value => .value
  | .iterationCount => .iterationCount
  | .submissionCount => .submissionCount

def FlowConfidence.text : FlowConfidence → String
  | .proven => "proven"
  | .partialProof => "partial"

def identifierStart (c : Char) : Bool := c.isAlpha || c = '_' || c = '$'

def identifierPart (c : Char) : Bool := c.isAlphanum || c = '_' || c = '$'

def isIdentifier (text : List Char) : Bool :=
  match text with
  | [] => false
  | c :: rest => identifierStart c && rest.all identifierPart

/-- The identifier tokens of an expression; a token under way is held in reverse. -/
def identifierTokens : List Char → List Char → List (List Char)
  | [], [] => []
  | token, [] => [token.reverse]
  | [], c :: rest =>
    if identifierStart c then identifierTokens [c] rest else identifierTokens [] rest
  | token, c :: rest =>
    if identifierPart c then identifierTokens (c :: token) rest
    else token.reverse :: identifierTokens [] rest

/-- Matches one exact demand expression or identifier token. -/
def expressionBindsDemand (name expression : String) : Bool := name = expression ||
    (isIdentifier name.toList && (identifierTokens [] expression.toList).contains name.toList)

structure AttackerControl where
  target : AttackerTarget
  source : FieldText
  sink : FieldText
  deriving DecidableEq

def AttackerControl.toDict (control : AttackerControl) : PlainJson :=
  .obj [("target", .str control.target.role.text), ("source", .str control.source.1),
    ("sink", .str control.sink.1)]

def maxItems : Nat := 64

def validSequence (values : List String) : Bool :=
  values ≠ [] && values.length ≤ maxItems && values.all validText

def flowIdentity (entryId growthId : String) (attackerControl : AttackerControl)
    (callPath phaseSequence : List String) (confidence : FlowConfidence) :
    List (String × PlainJson) := [("entry_id", .str entryId), ("growth_id", .str growthId),
    ("attacker_control", attackerControl.toDict), ("call_path", .arr (callPath.map .str)),
    ("phase_sequence", .arr (phaseSequence.map .str)), ("confidence", .str confidence.text)]

structure FlowProof where
  pathId : String
  entryId : String
  growthId : String
  attackerControl : AttackerControl
  callPath : List String
  phaseSequence : List String
  confidence : FlowConfidence
  flowKind : FieldText
  coverageStatus : CoverageStatus
  coverageNote : FieldText
  entryIdStarts : Text.startsWith entryId "entry:" = true
  growthIdStarts : Text.startsWith growthId "growth:" = true
  callPathValid : validSequence callPath = true
  phaseSequenceValid : validSequence phaseSequence = true
  provenComplete : confidence = .proven →
    (flowKind.1 = "data_flow" ∨ flowKind.1 = "local_data_flow") ∧ coverageStatus = .complete
  pathIdCanonical : pathId = stableIdentifier "flow"
    (flowIdentity entryId growthId attackerControl callPath phaseSequence confidence)

theorem FlowProof.path_id_starts (flow : FlowProof) :
    Text.startsWith flow.pathId "flow:" = true := by
  rw [flow.pathIdCanonical]
  exact stable_identifier_starts "flow" _

end DosWeb.Flows
