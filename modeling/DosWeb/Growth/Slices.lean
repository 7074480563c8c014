import DosWeb.Entries.Models
import DosWeb.Growth.Models

namespace DosWeb.Growth

open Library Library.OrderedSet Identifiers
open Entries (FieldText SourcePath)

inductive EscapeScope where
  | request
  | session
  | instance_
  | global
  | unknown
  deriving DecidableEq

/-- The coverage of a growth candidate: complete or partial. -/
inductive CandidateCoverageStatus where
  | complete
  | partialCoverage
  deriving DecidableEq

def GrowthKind.text : GrowthKind → String
  | .inputMaterialization => "input_materialization"
  | .directAllocation => "direct_allocation"
  | .containerGrowth => "container_growth"
  | .asyncWorkGrowth => "async_work_growth"

def ResourceDimension.text : ResourceDimension → String
  | .entries => "entries"
  | .bytes => "bytes"
  | .tasks => "tasks"
  | .connections => "connections"
  | .objects => "objects"

def DemandRole.text : DemandRole → String
  | .size => "size"
  | .key => "key"
  | .value => "value"
  | .iterationCount => "iteration_count"
  | .submissionCount => "submission_count"
  | .unknown => "unknown"

def EscapeScope.text : EscapeScope → String
  | .request => "request"
  | .session => "session"
  | .instance_ => "instance"
  | .global => "global"
  | .unknown => "unknown"

def CandidateCoverageStatus.text : CandidateCoverageStatus → String
  | .complete => "complete"
  | .partialCoverage => "partial"

abbrev SourceLine := { line : Nat // 1 ≤ line ∧ line ≤ 2147483647 }

structure SourceLocation where
  file : SourcePath
  startLine : SourceLine
  deriving DecidableEq

structure DemandInput where
  name : FieldText
  role : DemandRole
  deriving DecidableEq

def SourceLocation.toDict (location : SourceLocation) : PlainJson :=
  .obj [("file", .str location.file.1), ("start_line", .int location.startLine.1)]

def DemandInput.toDict (demand : DemandInput) : PlainJson :=
  .obj [("name", .str demand.name.1), ("role", .str demand.role.text)]

/-- The dataclass order compares the name, then the role. -/
def DemandInput.orderKey (demand : DemandInput) : String ×ₗ String :=
  toLex (demand.name.1, demand.role.text)

theorem DemandRole.text_injective (left right : DemandRole) (same : left.text = right.text) :
    left = right := by
  cases left <;> cases right <;> first | rfl | exact absurd same (by decide)

theorem DemandInput.orderKey_injective : Function.Injective DemandInput.orderKey := by
  intro left right same
  rcases left with ⟨leftName, leftRole⟩
  rcases right with ⟨rightName, rightRole⟩
  have pair := toLex_inj.mp same
  have name : leftName = rightName := Subtype.ext (congrArg Prod.fst pair)
  have role : leftRole = rightRole := DemandRole.text_injective _ _ (congrArg Prod.snd pair)
  rw [name, role]

instance : LinearOrder DemandInput :=
  LinearOrder.lift' DemandInput.orderKey DemandInput.orderKey_injective

def resourceIdentity (dimension : ResourceDimension) (receiver fieldPath : String) :
    List (String × PlainJson) :=
  [("dimension", .str dimension.text), ("receiver", .str receiver), ("field_path", .str fieldPath)]

def candidateIdentity (site : SourceLocation) (kind : GrowthKind) (operation resourceId : String)
    (dimension : ResourceDimension) (receiver fieldPath : String)
    (demandInputs : List DemandInput) (escapeScope : EscapeScope) (evidenceIds : List String)
    (coverageStatus : CandidateCoverageStatus) (coverageNotes : List String) :
    List (String × PlainJson) :=
  [("site", site.toDict), ("kind", .str kind.text), ("operation", .str operation),
    ("resource_id", .str resourceId), ("resource_dimension", .str dimension.text),
    ("receiver", .str receiver), ("field_path", .str fieldPath),
    ("demand_inputs", .arr (demandInputs.map DemandInput.toDict)),
    ("escape_scope", .str escapeScope.text), ("evidence_ids", .arr (evidenceIds.map .str)),
    ("coverage_status", .str coverageStatus.text),
    ("coverage_notes", .arr (coverageNotes.map .str))]

/-- An identifier of a piece of evidence, of any length. -/
def evidenceShape (value : String) : Bool :=
  Text.startsWith value "fact:" && value.toList.drop 5 ≠ [] &&
    (value.toList.drop 5).all identifierChar

/-- A normalized growth candidate; the set of its evidence is held in increasing order. -/
structure GrowthCandidate where
  growthId : String
  site : SourceLocation
  kind : GrowthKind
  operation : FieldText
  resourceId : String
  resourceDimension : ResourceDimension
  receiver : FieldText
  fieldPath : FieldText
  demandInputs : List DemandInput
  escapeScope : EscapeScope
  evidenceIds : TextSet
  coverageStatus : CandidateCoverageStatus
  coverageNotes : TextSet
  demandsRequired : demandInputs ≠ []
  demandsBounded : demandInputs.length ≤ 64
  demandsOrdered : demandInputs.Pairwise (· < ·)
  evidenceRequired : evidenceIds.values ≠ []
  evidenceBounded : evidenceIds.values.length ≤ 64
  evidenceValid : ∀ identifier ∈ evidenceIds.values, evidenceShape identifier = true
  notesRequired : coverageNotes.values ≠ []
  notesBounded : coverageNotes.values.length ≤ 64
  notesValid : ∀ note ∈ coverageNotes.values, Entries.validText note = true
  resourceCanonical : resourceId =
    stableIdentifier "resource" (resourceIdentity resourceDimension receiver.1 fieldPath.1)
  idCanonical : growthId = stableIdentifier "growth" (candidateIdentity site kind operation.1
    resourceId resourceDimension receiver.1 fieldPath.1 demandInputs escapeScope
    evidenceIds.values coverageStatus coverageNotes.values)

namespace GrowthCandidate

def demandRoles (candidate : GrowthCandidate) : List DemandRole :=
  candidate.demandInputs.map DemandInput.role

def demandNames (candidate : GrowthCandidate) : List String :=
  candidate.demandInputs.map fun demand => demand.name.1

def resourcePoint (candidate : GrowthCandidate) : PlainJson :=
  .obj [("resource_id", .str candidate.resourceId),
    ("dimension", .str candidate.resourceDimension.text),
    ("receiver", .str candidate.receiver.1), ("field_path", .str candidate.fieldPath.1)]

theorem growth_id_starts (candidate : GrowthCandidate) :
    Text.startsWith candidate.growthId "growth:" = true := by
  rw [candidate.idCanonical]
  exact stable_identifier_starts "growth" _

end GrowthCandidate

inductive LinkStatus where
  | complete
  | partialLink
  deriving DecidableEq

def LinkStatus.text : LinkStatus → String
  | .complete => "complete"
  | .partialLink => "partial"

def linkIdentity (growthId entryId : String) (status : LinkStatus)
    (evidenceIds reasonCodes : List String) : List (String × PlainJson) :=
  [("growth_id", .str growthId), ("entry_id", .str entryId), ("status", .str status.text),
    ("evidence_ids", .arr (evidenceIds.map .str)), ("reason_codes", .arr (reasonCodes.map .str))]

/-- A link between a growth candidate and an entry it is reached from. -/
structure CandidateEntryLink where
  linkId : String
  growthId : String
  entryId : String
  status : LinkStatus
  evidenceIds : TextSet
  reasonCodes : TextSet
  growthIdStarts : Text.startsWith growthId "growth:" = true
  entryIdStarts : Text.startsWith entryId "entry:" = true
  evidenceRequired : evidenceIds.values ≠ []
  reasonsRequired : reasonCodes.values ≠ []
  idCanonical : linkId = stableIdentifier "candidate_link"
    (linkIdentity growthId entryId status evidenceIds.values reasonCodes.values)

/-- A map that a request handler fills: the candidate of the witnesses below. -/
def sampleCandidate : GrowthCandidate where
  growthId := "growth:25879b9a334a6a4e946cf705"
  site := ⟨⟨"src/Cache.java", Entries.cache_path_valid⟩, ⟨12, by decide⟩⟩
  kind := .containerGrowth
  operation := ⟨"java.util.Map.put", by decide⟩
  resourceId := "resource:30bc2d4d99889650f1bb75c7"
  resourceDimension := .entries
  receiver := ⟨"this.cache", by decide⟩
  fieldPath := ⟨"cache", by decide⟩
  demandInputs := [⟨⟨"token", Entries.token_valid⟩, .key⟩]
  escapeScope := .instance_
  evidenceIds := ⟨["fact:put"], by decide, by decide⟩
  coverageStatus := .complete
  coverageNotes := ⟨["normalized"], by decide, by decide⟩
  demandsRequired := by decide
  demandsBounded := by decide
  demandsOrdered := List.pairwise_singleton _ _
  evidenceRequired := by decide
  evidenceBounded := by decide
  evidenceValid := by decide
  notesRequired := by decide
  notesBounded := by decide
  notesValid := by decide
  resourceCanonical := by
    rw [identifier_codes]
    decide +kernel
  idCanonical := by
    rw [identifier_codes]
    decide +kernel

theorem sample_candidate_named : sampleCandidate.growthId = "growth:25879b9a334a6a4e946cf705" := rfl

theorem handler_ids_valid : validId "entry:handler" "entry:" = true ∧
    validId "slice:handler" "slice:" = true ∧ validId "excerpt:handler" "excerpt:" = true := by
  decide

theorem handler_entry_valid : validId "entry:handler" "entry:" = true := handler_ids_valid.1

theorem unreferenced_valid (reference : String) (none_refers : none = some reference) :
    validId reference "fact:" = true := absurd none_refers (Option.some_ne_none reference).symm

theorem unvalued_write : validNormalizedValue .containerWrite none = true := rfl

theorem parameter_flow : validNormalizedValue .flow (some "request_parameter") = true := rfl

end DosWeb.Growth
