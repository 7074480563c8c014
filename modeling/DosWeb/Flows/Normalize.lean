import DosWeb.Flows.Verify

/-!
Raw flow rows: the rows between known entries and retained growth are kept, and each of
them becomes one flow proof.
-/

namespace DosWeb.Flows

open Library Library.JsonValue Identifiers
open Entries (EntryFact FieldText CoverageStatus validText)
open Growth (GrowthCandidate VerifiedGrowthResult)

deriving instance DecidableEq for EntryFact

/-- A row of the flow query, as the decoder yields it. -/
structure FlowRow where
  sourceFile : String
  sourceStartLine : Int
  sinkFile : String
  sinkStartLine : Int
  attackerTarget : String
  attackerSource : String
  attackerSink : String
  callPath : String
  phaseSequence : String
  flowKind : String
  confidence : String
  coverageStatus : String
  coverageNote : String
  deriving DecidableEq

def FlowRow.toDict (row : FlowRow) : PlainJson :=
  .obj [("source_file", .str row.sourceFile), ("source_start_line", .int row.sourceStartLine),
    ("sink_file", .str row.sinkFile), ("sink_start_line", .int row.sinkStartLine),
    ("attacker_target", .str row.attackerTarget), ("attacker_source", .str row.attackerSource),
    ("attacker_sink", .str row.attackerSink), ("call_path", .str row.callPath),
    ("phase_sequence", .str row.phaseSequence), ("flow_kind", .str row.flowKind),
    ("confidence", .str row.confidence), ("coverage_status", .str row.coverageStatus),
    ("coverage_note", .str row.coverageNote)]

def flowInvalid (reason : String) (field : Option String := none) : Raised :=
  .analyzer ⟨"ANALYSIS_FLOW_INVALID",
    "Flow proof violates the normalized static-analysis contract.",
    Entries.invalidDetails reason field⟩

def flowString (value field : String) : Checked FieldText :=
  if value = "" ∨ value.toList.contains (Char.ofNat 0) then
    .error (flowInvalid "STRING_REQUIRED" (some field))
  else if valid : validText value = true then .ok ⟨value, valid⟩
  else .error (flowInvalid "STRING_LIMIT" (some field))

def flowEnum {α : Type} (members : List α) (text : α → String) (value field : String) :
    Checked α := do
  let valid ← flowString value field
  match members.find? fun item => text item = valid.1 with
  | some item => .ok item
  | none => .error (flowInvalid "ENUM_INVALID" (some field))

def flowPath (value field : String) : Checked String := do
  let valid ← flowString value field
  match Entries.normalPath valid.1.toList with
  | some path => .ok (String.ofList path)
  | none => .error (flowInvalid "PATH_INVALID" (some field))

def flowLine (value : Int) (field : String) : Checked Nat :=
  if 0 < value ∧ value ≤ 2147483647 then .ok value.toNat
  else .error (flowInvalid "POSITIVE_LINE_REQUIRED" (some field))

def flowStrings (field : String) : List String → Checked (List String)
  | [] => .ok []
  | value :: values => do
      let valid ← flowString value field
      let others ← flowStrings field values
      return valid.1 :: others

def textSpace (c : Char) : Bool := Text.numberSpace c || (0x1c ≤ c.toNat && c.toNat ≤ 0x1f)

def stripText (text : List Char) : List Char :=
  ((text.dropWhile textSpace).reverse.dropWhile textSpace).reverse

/-- The items of a sequence that `>` separates, without the white space around them. -/
def flowSequence (value field : String) : Checked (List String) := do
  let values := (Text.splitOn '>' value.toList).map fun part => String.ofList (stripText part)
  require (values.length ≤ maxItems) (flowInvalid "SEQUENCE_LIMIT" (some field))
  flowStrings field values

def attackerTargets : List AttackerTarget := [.size, .key, .value, .iterationCount, .submissionCount]

def AttackerTarget.text (target : AttackerTarget) : String := target.role.text

def flowConfidences : List FlowConfidence := [.proven, .partialProof]

def coverageStatuses : List CoverageStatus := [.complete, .partialCoverage, .unsupported]

/-- What a flow proof may be built of; the identifier of its path follows from it. -/
structure ProofParts where
  entry : EntryFact
  growth : VerifiedGrowthResult
  control : AttackerControl
  callPath : List String
  phaseSequence : List String
  confidence : FlowConfidence
  flowKind : FieldText
  coverageStatus : CoverageStatus
  coverageNote : FieldText

def dataFlowKind (flowKind : String) : Bool :=
  flowKind = "data_flow" || flowKind = "local_data_flow"

/-- The proof of the parts, with the checks of its constructor. -/
def FlowProof.create (parts : ProofParts) : Checked FlowProof :=
  if callPathValid : validSequence parts.callPath = true then
    if phaseSequenceValid : validSequence parts.phaseSequence = true then
      if provenComplete : parts.confidence = .proven →
          (parts.flowKind.1 = "data_flow" ∨ parts.flowKind.1 = "local_data_flow") ∧
            parts.coverageStatus = .complete then
        .ok {
          pathId := stableIdentifier "flow" (flowIdentity parts.entry.entryId parts.growth.growthId
            parts.control parts.callPath parts.phaseSequence parts.confidence)
          entryId := parts.entry.entryId
          growthId := parts.growth.growthId
          attackerControl := parts.control
          callPath := parts.callPath
          phaseSequence := parts.phaseSequence
          confidence := parts.confidence
          flowKind := parts.flowKind
          coverageStatus := parts.coverageStatus
          coverageNote := parts.coverageNote
          entryIdStarts := parts.entry.entry_id_starts
          growthIdStarts := parts.growth.growthIdStarts
          callPathValid, phaseSequenceValid, provenComplete
          pathIdCanonical := rfl }
      else .error (flowInvalid "PROVEN_FLOW_REQUIRES_COMPLETE_DATA_FLOW")
    else .error (flowInvalid "SEQUENCE_LIMIT" (some "phase_sequence"))
  else .error (flowInvalid "SEQUENCE_LIMIT" (some "call_path"))

def FlowProof.semanticIdentity (proof : FlowProof) : Members Empty :=
  flowIdentity proof.entryId proof.growthId proof.attackerControl proof.callPath
    proof.phaseSequence proof.confidence

def FlowProof.toDict (proof : FlowProof) : PlainJson :=
  .obj ([("path_id", .str proof.pathId)] ++ proof.semanticIdentity ++
    [("flow_kind", .str proof.flowKind.1), ("coverage_status", .str proof.coverageStatus.text),
      ("coverage_note", .str proof.coverageNote.1)])

variable (entries : List (String × EntryFact)) (growth : List (String × VerifiedGrowthResult))

/-- Keeps the rows from a handler to the line of a retained candidate. -/
def reconciled (row : FlowRow) : Bool :=
  (entries.any fun item => item.2.handler.file.1 = row.sourceFile &&
      (item.2.handler.startLine.1 : Int) = row.sourceStartLine) &&
    growth.any fun item =>
      match item.2.candidate with
      | some candidate => candidate.site.file.1 = row.sinkFile &&
          (candidate.site.startLine.1 : Int) = row.sinkStartLine
      | none => false

def reconcileFlowRows (rows : List FlowRow) : List FlowRow := rows.filter (reconciled entries growth)

/-- A demand of the candidate has the role and binds the sink expression. -/
def bindsDemand (control : AttackerControl) (candidate : GrowthCandidate) : Bool :=
  candidate.demandInputs.any fun demand =>
    demand.role = control.target.role && expressionBindsDemand demand.name.1 control.sink.1

def growthMatches (sinkFile : String) (sinkLine : Nat) (control : AttackerControl) :
    List (VerifiedGrowthResult × GrowthCandidate) :=
  growth.filterMap fun item =>
    match item.2.candidate with
    | some candidate =>
      if candidate.site.file.1 = sinkFile ∧ candidate.site.startLine.1 = sinkLine ∧
          bindsDemand control candidate = true then
        some (item.2, candidate)
      else none
    | none => none

def entryMatches (sourceFile : String) (sourceLine : Nat) : List EntryFact :=
  (entries.map Prod.snd).filter fun entry =>
    entry.handler.file.1 = sourceFile && entry.handler.startLine.1 = sourceLine

def readsInput (source : String) (entry : EntryFact) : Bool :=
  entry.attackerInputs.any fun input => input.name.1 = source

/-- The entries at the source: those that read the input, or all if none does. -/
def entryDomain (source : String) (matched : List EntryFact) : List EntryFact :=
  let named := matched.filter (readsInput source)
  (if named = [] then matched else named).insertionSort fun left right =>
    left.entryId ≤ right.entryId

variable (canonicalEntryIds : List (String × String))

def canonicalEntry (growthId : String) (domain : List EntryFact) : Checked EntryFact :=
  match (canonicalEntryIds.lookup growthId).bind fun entryId => entries.lookup entryId with
  | some entry =>
    if entry ∈ domain then .ok entry else .error (flowInvalid "FLOW_CANONICAL_ENTRY_MISMATCH")
  | none => .error (flowInvalid "FLOW_CANONICAL_ENTRY_MISMATCH")

def rowControl (row : FlowRow) : Checked AttackerControl := do
  let source ← flowString row.attackerSource "attacker_source"
  let sink ← flowString row.attackerSink "attacker_sink"
  let target ← flowEnum attackerTargets AttackerTarget.text row.attackerTarget "attacker_target"
  return ⟨target, source, sink⟩

structure RowPlaces where
  sourceFile : String
  sourceLine : Nat
  sinkFile : String
  sinkLine : Nat

def rowPlaces (row : FlowRow) : Checked RowPlaces := do
  let sourceFile ← flowPath row.sourceFile "source_file"
  let sourceLine ← flowLine row.sourceStartLine "source_start_line"
  let sinkFile ← flowPath row.sinkFile "sink_file"
  let sinkLine ← flowLine row.sinkStartLine "sink_start_line"
  return ⟨sourceFile, sourceLine, sinkFile, sinkLine⟩

/-- The one growth whose demand the row binds, provided that an entry handles its source. -/
def resolveGrowth (places : RowPlaces) (control : AttackerControl) : Checked VerifiedGrowthResult :=
  match growthMatches growth places.sinkFile places.sinkLine control with
  | [matched] =>
    if entryMatches entries places.sourceFile places.sourceLine ≠ [] then .ok matched.1
    else .error (flowInvalid "FLOW_REFERENCE_AMBIGUOUS")
  | _ => .error (flowInvalid "FLOW_REFERENCE_AMBIGUOUS")

/-- The proof of a row. A resolved row has one entry, the canonical one of its growth. -/
def normalizeRow (row : FlowRow) : Checked FlowProof := do
  let places ← rowPlaces row
  let control ← rowControl row
  let result ← resolveGrowth entries growth places control
  let entry ← canonicalEntry entries canonicalEntryIds result.growthId
    (entryDomain control.source.1 (entryMatches entries places.sourceFile places.sourceLine))
  let coverage ← flowEnum coverageStatuses CoverageStatus.text row.coverageStatus "coverage_status"
  let confidence ← flowEnum flowConfidences FlowConfidence.text row.confidence "confidence"
  let flowKind ← flowString row.flowKind "flow_kind"
  let note ← flowString row.coverageNote "coverage_note"
  require (readsInput control.source.1 entry)
    (flowInvalid "ATTACKER_SOURCE_NOT_ENTRY_INPUT" (some "attacker_source"))
  let callPath ← flowSequence row.callPath "call_path"
  let phaseSequence ← flowSequence row.phaseSequence "phase_sequence"
  FlowProof.create {
    entry, growth := result, control, callPath, phaseSequence
    confidence := if coverage ≠ .complete ∨ dataFlowKind flowKind.1 = false then .partialProof
      else confidence
    flowKind, coverageStatus := coverage, coverageNote := note }

def maxRows : Nat := 4096

/-- Adds the proofs of the rows, each of a path of its own. -/
def normalizeEach : List FlowRow → List FlowProof → Checked (List FlowProof)
  | [], proofs => .ok proofs
  | row :: rows, proofs => do
      let proof ← normalizeRow entries growth canonicalEntryIds row
      require (proof.pathId ∉ proofs.map FlowProof.pathId) (flowInvalid "DUPLICATE_PATH_ID")
      normalizeEach rows (proofs ++ [proof])

def normalizeFlowRows (rows : List FlowRow) : Checked (List FlowProof) := do
  require (rows.length ≤ maxRows) (flowInvalid "ROW_LIMIT")
  let proofs ← normalizeEach entries growth canonicalEntryIds rows []
  return List.insertionSort (fun left right : FlowProof =>
    canonicalJson (Json.obj left.semanticIdentity : PlainJson) ≤
      canonicalJson (Json.obj right.semanticIdentity : PlainJson)) proofs

end DosWeb.Flows
