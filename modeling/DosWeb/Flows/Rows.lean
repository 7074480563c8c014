import DosWeb.Entries.Keys
import DosWeb.Flows.Codec
import DosWeb.Library.Grouping
import DosWeb.Library.Keyed

/-!
Raw flow rows in general: their members are checked here, and where no canonical entry is known
a row resolves to the entries at its source.
-/

namespace DosWeb.Flows

open Library.JsonValue Library.JsonRecord Library.Keyed Library.OrderedSet Identifiers
open Entries (EntryFact FieldText CoverageStatus narrowedBy registrationIdentity
  registrationOrder semanticKey)
open Growth (GrowthCandidate VerifiedGrowthResult)

variable {F : Type}

def flowColumns : List String :=
  ["source_file", "source_start_line", "sink_file", "sink_start_line", "attacker_target",
    "attacker_source", "attacker_sink", "call_path", "phase_sequence", "flow_kind", "confidence",
    "coverage_status", "coverage_note"]

def provenanceFields : List String :=
  ["query_name", "query_sha256", "source_location", "sink_location"]

/-- The columns that a row lacks or, where it has all, the fields that no row has. -/
def unexpectedFields (row : Members F) : List String :=
  let missing := flowColumns.filter fun column => column ∉ row.map Prod.fst
  let extra := (row.map Prod.fst).filter fun own => own ∉ flowColumns ++ provenanceFields
  sortedSet (if missing ≠ [] then missing else extra)

def rawFields (row : Members F) : Checked Unit :=
  match unexpectedFields row with
  | [] => .ok ()
  | first :: _ => .error (flowInvalid "RAW_FIELDS_INVALID" (some first))

def pathOf (value : Json F) (field : String) : Checked String :=
  match value with
  | .str text => flowPath text field
  | _ => .error (flowInvalid "STRING_REQUIRED" (some field))

def lineOf (value : Json F) (field : String) : Checked Nat :=
  match value with
  | .int line => flowLine line field
  | _ => .error (flowInvalid "POSITIVE_LINE_REQUIRED" (some field))

def placesOf (row : Members F) : Checked RowPlaces := do
  let sourceFile ← pathOf (get row "source_file") "source_file"
  let sourceLine ← lineOf (get row "source_start_line") "source_start_line"
  let sinkFile ← pathOf (get row "sink_file") "sink_file"
  let sinkLine ← lineOf (get row "sink_start_line") "sink_start_line"
  return ⟨sourceFile, sourceLine, sinkFile, sinkLine⟩

def attackerControlOf (row : Members F) : Checked AttackerControl := do
  let source ← textOf (get row "attacker_source") "attacker_source"
  let sink ← textOf (get row "attacker_sink") "attacker_sink"
  let target ← memberOf attackerTargets AttackerTarget.text (get row "attacker_target")
    "attacker_target"
  return ⟨target, source, sink⟩

section

/-- The entries that a row stands for: one, or all routes of one handler. -/
def entriesForGrowth (matched : List EntryFact) (result : VerifiedGrowthResult) :
    Checked (List EntryFact) :=
  match result.candidate with
  | none => .error (flowInvalid "FLOW_REFERENCE_AMBIGUOUS")
  | some candidate =>
    let narrowed := narrowedBy candidate.demandNames matched
    if narrowed.length = 1 then .ok narrowed
    else if oneValue (narrowed.map semanticKey) then
      .ok (narrowed.argmin registrationOrder).toList
    else if oneValue (narrowed.map registrationIdentity) then
      .ok (narrowed.argmin EntryFact.entryId).toList
    else if oneValue (narrowed.map EntryFact.handler) ∧
        1 < (narrowed.map EntryFact.routeOrEvent).dedup.length then
      .ok (narrowed.insertionSort fun left right => left.entryId ≤ right.entryId)
    else .error (flowInvalid "FLOW_REFERENCE_AMBIGUOUS")

variable (entries : List (String × EntryFact)) (growth : List (String × VerifiedGrowthResult))
  (canonicalEntryIds : Option (List (String × String)))

def resolvedEntries (domain : List EntryFact) (result : VerifiedGrowthResult) :
    Checked (List EntryFact) :=
  match canonicalEntryIds with
  | none => entriesForGrowth domain result
  | some canonical => do
      let entry ← canonicalEntry entries canonical result.growthId domain
      return [entry]

/-- A row that is resolved, with its own members as they were read. -/
structure RowReading (F : Type) where
  places : RowPlaces
  control : AttackerControl
  growth : VerifiedGrowthResult
  resolved : List EntryFact
  coverage : CoverageStatus
  confidence : FlowConfidence
  flowKind : FieldText
  note : FieldText
  callPath : Json F
  phaseSequence : Json F

def demandsTarget (control : AttackerControl) (candidate : GrowthCandidate) : Bool :=
  candidate.demandInputs.any fun demand => demand.role = control.target.role

def demandChecks (control : AttackerControl) (result : VerifiedGrowthResult) : Checked Unit := do
  require (result.candidate.any (demandsTarget control))
    (flowInvalid "ATTACKER_TARGET_NOT_GROWTH_DEMAND" (some "attacker_target"))
  require (result.candidate.any (bindsDemand control))
    (flowInvalid "ATTACKER_SINK_NOT_GROWTH_DEMAND" (some "attacker_sink"))

def readRow (row : Members F) : Checked (RowReading F) := do
  rawFields row
  let places ← placesOf row
  let control ← attackerControlOf row
  let result ← resolveGrowth entries growth places control
  let resolved ← resolvedEntries entries canonicalEntryIds
    (entryDomain control.source.1 (entryMatches entries places.sourceFile places.sourceLine)) result
  demandChecks control result
  let coverage ← memberOf coverageStatuses CoverageStatus.text (get row "coverage_status")
    "coverage_status"
  let confidence ← memberOf flowConfidences FlowConfidence.text (get row "confidence") "confidence"
  let flowKind ← textOf (get row "flow_kind") "flow_kind"
  let note ← textOf (get row "coverage_note") "coverage_note"
  return ⟨places, control, result, resolved, coverage, confidence, flowKind, note,
    get row "call_path", get row "phase_sequence"⟩

end

section

theorem fanned_note_valid :
    Entries.validText "multiple_route_registrations_require_path_coverage" = true := by
  decide

variable (reading : RowReading F)

def RowReading.fannedOut : Bool := 1 < reading.resolved.length

/-- A row that fans out is never more than a partial proof of each of its routes. -/
def RowReading.provenConfidence : FlowConfidence :=
  if reading.fannedOut || reading.coverage ≠ .complete || !dataFlowKind reading.flowKind.1 then
    .partialProof
  else reading.confidence

def RowReading.provenCoverage : CoverageStatus :=
  if reading.fannedOut then .partialCoverage else reading.coverage

def RowReading.provenNote : FieldText :=
  if reading.fannedOut then
    ⟨"multiple_route_registrations_require_path_coverage", fanned_note_valid⟩
  else reading.note

def RowReading.parts (entry : EntryFact) (callPath phaseSequence : List String) : ProofParts where
  entry
  growth := reading.growth
  control := reading.control
  callPath
  phaseSequence
  confidence := reading.provenConfidence
  flowKind := reading.flowKind
  coverageStatus := reading.provenCoverage
  coverageNote := reading.provenNote

def entryProof (entry : EntryFact) : Checked FlowProof := do
  require (readsInput reading.control.source.1 entry)
    (flowInvalid "ATTACKER_SOURCE_NOT_ENTRY_INPUT" (some "attacker_source"))
  let callPath ← itemsOf reading.callPath "call_path"
  let phaseSequence ← itemsOf reading.phaseSequence "phase_sequence"
  FlowProof.create (reading.parts entry callPath phaseSequence)

/-- Adds the proofs of the entries, each of a path of its own. -/
def addProofs : List EntryFact → List FlowProof → Checked (List FlowProof)
  | [], proofs => .ok proofs
  | entry :: others, proofs => do
      let proof ← entryProof reading entry
      require (proof.pathId ∉ proofs.map FlowProof.pathId) (flowInvalid "DUPLICATE_PATH_ID")
      addProofs others (proofs ++ [proof])

end

variable (entries : List (String × EntryFact)) (growth : List (String × VerifiedGrowthResult))
  (canonicalEntryIds : Option (List (String × String)))

def addRows : List (Json F) → List FlowProof → Checked (List FlowProof)
  | [], proofs => .ok proofs
  | row :: rows, proofs =>
    match objectOf row with
    | none => .error (flowInvalid "ROW_NOT_MAPPING")
    | some members => do
        let reading ← readRow entries growth canonicalEntryIds members
        let added ← addProofs reading reading.resolved proofs
        addRows rows added

def byIdentity (proofs : List FlowProof) : List FlowProof :=
  proofs.insertionSort fun left right =>
    canonicalJson (Json.obj left.semanticIdentity : PlainJson) ≤
      canonicalJson (Json.obj right.semanticIdentity : PlainJson)

def normalizeRows (rows : List (Json F)) : Checked (List FlowProof) := do
  require (rows.length ≤ maxRows) (flowInvalid "ROW_LIMIT")
  let proofs ← addRows entries growth canonicalEntryIds rows []
  return byIdentity proofs

/-- The records that the normalized rows are published as. -/
def normalizeRecords (rows : List (Json F)) : Checked (List (Members F)) := do
  let proofs ← normalizeRows entries growth canonicalEntryIds rows
  return proofs.map FlowProof.members

end DosWeb.Flows
