import DosWeb.Entries.Canonical
import DosWeb.Growth.Slices
import DosWeb.Library.FieldSets

/-!
What a growth candidate is built of: the values that its fields take, and the collections that its
constructor puts in order and counts.
-/

namespace DosWeb.Growth

open Library.JsonValue Library.JsonRecord Library.OrderedSet Identifiers
open Entries (FieldText SourcePath validText normalPath)

def growthInvalid (reason : String) (field : Option String := none) : Raised :=
  .analyzer ⟨"ANALYSIS_GROWTH_INVALID",
    "Growth candidate violates the normalized static-analysis contract.",
    Entries.invalidDetails reason field⟩

def textInvalid (text field : String) : Raised :=
  if text = "" ∨ text.toList.contains (Char.ofNat 0) then
    growthInvalid "STRING_REQUIRED" (some field)
  else growthInvalid "STRING_LIMIT" (some field)

section

variable {F : Type}

def growthString (value : Json F) (field : String) : Checked FieldText :=
  match value with
  | .str text =>
    if valid : validText text = true then .ok ⟨text, valid⟩ else .error (textInvalid text field)
  | _ => .error (growthInvalid "STRING_REQUIRED" (some field))

def growthEnum {α : Type} (members : List α) (text : α → String) (value : Json F)
    (field : String) : Checked α := do
  let valid ← growthString value field
  match members.find? fun member => text member = valid.1 with
  | some member => .ok member
  | none => .error (growthInvalid "ENUM_INVALID" (some field))

def growthPath (value : Json F) (field : String) : Checked SourcePath := do
  let text ← growthString value field
  match found : normalPath text.1.toList with
  | some normal =>
    .ok ⟨String.ofList normal, Entries.normal_path_stands text normal found⟩
  | none => .error (growthInvalid "PATH_INVALID" (some field))

theorem line_within (line : Int) (within : 1 ≤ line ∧ line ≤ 2147483647) :
    1 ≤ line.toNat ∧ line.toNat ≤ 2147483647 := by
  omega

def growthLine (value : Json F) (field : String) : Checked SourceLine :=
  match value with
  | .int line =>
    if within : 1 ≤ line ∧ line ≤ 2147483647 then .ok ⟨line.toNat, line_within line within⟩
    else .error (growthInvalid "POSITIVE_LINE_REQUIRED" (some field))
  | _ => .error (growthInvalid "POSITIVE_LINE_REQUIRED" (some field))

def sourceLocation (file line : Json F) : Checked SourceLocation := do
  let path ← growthPath file "site_file"
  let number ← growthLine line "site_start_line"
  return ⟨path, number⟩

def growthKinds : List GrowthKind :=
  [.inputMaterialization, .directAllocation, .containerGrowth, .asyncWorkGrowth]

def resourceDimensions : List ResourceDimension :=
  [.entries, .bytes, .tasks, .connections, .objects]

def demandRoles : List DemandRole :=
  [.size, .key, .value, .iterationCount, .submissionCount, .unknown]

def escapeScopes : List EscapeScope := [.request, .session, .instance_, .global, .unknown]

def coverageStatuses : List CandidateCoverageStatus := [.complete, .partialCoverage]

def demandInput (name role : Json F) : Checked DemandInput := do
  let name ← growthString name "demand_input_name"
  let role ← growthEnum demandRoles DemandRole.text role "demand_input_role"
  return ⟨name, role⟩

variable (value : Json F)

variable (field : String)

theorem growth_string_ok (text : FieldText) :
    growthString value field = .ok text ↔ value = .str text.1 := by
  obtain ⟨own, valid⟩ := text
  cases value with
  | str given =>
    rw [growthString, Json.str.injEq]
    constructor
    · intro read
      split at read
      · cases read
        rfl
      · cases read
    · rintro rfl
      rw [dif_pos valid]
  | _ => simp [growthString]

theorem growth_enum_ok {α : Type} (members : List α) (text : α → String) (value : Json F)
    (field : String) (member : α) (inside : member ∈ members)
    (valid : validText (text member) = true)
    (apart : ∀ other ∈ members, text other = text member → other = member) :
    growthEnum members text value field = .ok member ↔ value = .str (text member) := by
  rw [growthEnum, bind_ok]
  constructor
  · rintro ⟨own, first, found⟩
    rw [(growth_string_ok value field own).mp first]
    split at found
    · rename_i other held
      cases found
      have named : text member = own.1 := by simpa using List.find?_some held
      rw [named]
    · cases found
  · rintro rfl
    refine ⟨⟨text member, valid⟩, (growth_string_ok _ field _).mpr rfl, ?_⟩
    have found : members.find? (fun item => text item = text member) = some member :=
      named_text (F := F) members text member inside apart
    rw [found]

theorem growth_texts_valid : ∀ text ∈ growthKinds.map GrowthKind.text ++
    resourceDimensions.map ResourceDimension.text ++ demandRoles.map DemandRole.text ++
    escapeScopes.map EscapeScope.text ++ coverageStatuses.map CandidateCoverageStatus.text,
    validText text = true := by
  decide

theorem kind_ok (kind : GrowthKind) :
    growthEnum growthKinds GrowthKind.text value field = .ok kind ↔ value = .str kind.text := by
  apply growth_enum_ok
  · cases kind <;> decide
  · apply growth_texts_valid
    cases kind <;> decide
  · cases kind <;> decide

theorem dimension_ok (dimension : ResourceDimension) :
    growthEnum resourceDimensions ResourceDimension.text value field = .ok dimension ↔
      value = .str dimension.text := by
  apply growth_enum_ok
  · cases dimension <;> decide
  · apply growth_texts_valid
    cases dimension <;> decide
  · cases dimension <;> decide

theorem role_ok (role : DemandRole) :
    growthEnum demandRoles DemandRole.text value field = .ok role ↔ value = .str role.text := by
  apply growth_enum_ok
  · cases role <;> decide
  · apply growth_texts_valid
    cases role <;> decide
  · cases role <;> decide

theorem scope_ok (scope : EscapeScope) :
    growthEnum escapeScopes EscapeScope.text value field = .ok scope ↔ value = .str scope.text := by
  apply growth_enum_ok
  · cases scope <;> decide
  · apply growth_texts_valid
    cases scope <;> decide
  · cases scope <;> decide

theorem status_ok (status : CandidateCoverageStatus) :
    growthEnum coverageStatuses CandidateCoverageStatus.text value field = .ok status ↔
      value = .str status.text := by
  apply growth_enum_ok
  · cases status <;> decide
  · apply growth_texts_valid
    cases status <;> decide
  · cases status <;> decide

end

/-- The fields of a candidate that are no collections. -/
structure CandidateFields where
  site : SourceLocation
  kind : GrowthKind
  operation : FieldText
  dimension : ResourceDimension
  receiver : FieldText
  fieldPath : FieldText
  escapeScope : EscapeScope
  coverageStatus : CandidateCoverageStatus

def maxCollection : Nat := 64

def fitsCollection {α : Type} (values : List α) : Bool :=
  !values.isEmpty && values.length ≤ maxCollection

theorem fits_iff {α : Type} (values : List α) :
    fitsCollection values = true ↔ values ≠ [] ∧ values.length ≤ 64 := by
  rw [fitsCollection, Bool.and_eq_true, decide_eq_true_eq, Bool.not_eq_true',
    List.isEmpty_eq_false_iff]
  rfl

/-- What is raised for the first note that is no valid text. -/
def noteInvalid (notes : List String) : Raised :=
  match notes.find? fun note => !validText note with
  | some note => textInvalid note "coverage_notes"
  | none => growthInvalid "COVERAGE_NOTES_INVALID" (some "coverage_notes")

theorem evidence_filled (evidence : String) (shaped : evidenceShape evidence = true) :
    evidence ≠ "" := by
  rintro rfl
  revert shaped
  decide

theorem note_filled (note : String) (valid : validText note = true) : note ≠ "" := by
  rintro rfl
  revert valid
  decide

/-- The candidate of the fields and the distinct items of the collections, with the checks of its
constructor; its identifiers follow from these. -/
def GrowthCandidate.build (fields : CandidateFields) (demands : List DemandInput)
    (evidence notes : List String) : Checked GrowthCandidate :=
  if demandsFit : fitsCollection (sortedSet demands) = true then
    if evidenceFit : fitsCollection (sortedSet evidence) = true ∧
        ∀ identifier ∈ sortedSet evidence, evidenceShape identifier = true then
      if notesFit : fitsCollection (sortedSet notes) = true then
        if notesValid : ∀ note ∈ sortedSet notes, validText note = true then
          .ok {
            growthId := stableIdentifier "growth" (candidateIdentity fields.site fields.kind
              fields.operation.1 (stableIdentifier "resource" (resourceIdentity fields.dimension
                fields.receiver.1 fields.fieldPath.1)) fields.dimension fields.receiver.1
              fields.fieldPath.1 (sortedSet demands) fields.escapeScope (sortedSet evidence)
              fields.coverageStatus (sortedSet notes))
            site := fields.site
            kind := fields.kind
            operation := fields.operation
            resourceId := stableIdentifier "resource" (resourceIdentity fields.dimension
              fields.receiver.1 fields.fieldPath.1)
            resourceDimension := fields.dimension
            receiver := fields.receiver
            fieldPath := fields.fieldPath
            demandInputs := sortedSet demands
            escapeScope := fields.escapeScope
            evidenceIds := ⟨sortedSet evidence, sortedSet_increasing evidence,
              fun empty => evidence_filled "" (evidenceFit.2 "" empty) rfl⟩
            coverageStatus := fields.coverageStatus
            coverageNotes := ⟨sortedSet notes, sortedSet_increasing notes,
              fun empty => note_filled "" (notesValid "" empty) rfl⟩
            demandsRequired := ((fits_iff _).mp demandsFit).1
            demandsBounded := ((fits_iff _).mp demandsFit).2
            demandsOrdered := sortedSet_increasing demands
            evidenceRequired := ((fits_iff _).mp evidenceFit.1).1
            evidenceBounded := ((fits_iff _).mp evidenceFit.1).2
            evidenceValid := evidenceFit.2
            notesRequired := ((fits_iff _).mp notesFit).1
            notesBounded := ((fits_iff _).mp notesFit).2
            notesValid := notesValid
            resourceCanonical := rfl
            idCanonical := rfl }
        else .error (noteInvalid (sortedSet notes))
      else .error (growthInvalid "COVERAGE_NOTES_INVALID" (some "coverage_notes"))
    else .error (growthInvalid "EVIDENCE_INVALID" (some "evidence_ids"))
  else .error (growthInvalid "DEMAND_INPUTS_INVALID" (some "demand_inputs"))

namespace GrowthCandidate

variable (candidate : GrowthCandidate)

def fields : CandidateFields :=
  ⟨candidate.site, candidate.kind, candidate.operation, candidate.resourceDimension,
    candidate.receiver, candidate.fieldPath, candidate.escapeScope, candidate.coverageStatus⟩

def semanticIdentity : Members Empty :=
  candidateIdentity candidate.site candidate.kind candidate.operation.1 candidate.resourceId
    candidate.resourceDimension candidate.receiver.1 candidate.fieldPath.1 candidate.demandInputs
    candidate.escapeScope candidate.evidenceIds.values candidate.coverageStatus
    candidate.coverageNotes.values

theorem ext_fields (left right : GrowthCandidate) (fields : left.fields = right.fields)
    (demands : left.demandInputs = right.demandInputs)
    (evidence : left.evidenceIds.values = right.evidenceIds.values)
    (notes : left.coverageNotes.values = right.coverageNotes.values) : left = right := by
  have resource := left.resourceCanonical.trans (by
    rw [show left.resourceDimension = right.resourceDimension from
        congrArg CandidateFields.dimension fields,
      show left.receiver = right.receiver from congrArg CandidateFields.receiver fields,
      show left.fieldPath = right.fieldPath from congrArg CandidateFields.fieldPath fields,
      ← right.resourceCanonical])
  have identifier : left.growthId = right.growthId := by
    rw [left.idCanonical, right.idCanonical, resource, demands, evidence, notes]
    rw [show left.site = right.site from congrArg CandidateFields.site fields,
      show left.kind = right.kind from congrArg CandidateFields.kind fields,
      show left.operation = right.operation from congrArg CandidateFields.operation fields,
      show left.resourceDimension = right.resourceDimension from
        congrArg CandidateFields.dimension fields,
      show left.receiver = right.receiver from congrArg CandidateFields.receiver fields,
      show left.fieldPath = right.fieldPath from congrArg CandidateFields.fieldPath fields,
      show left.escapeScope = right.escapeScope from congrArg CandidateFields.escapeScope fields,
      show left.coverageStatus = right.coverageStatus from
        congrArg CandidateFields.coverageStatus fields]
  cases left
  cases right
  cases fields
  cases resource
  cases identifier
  cases demands
  cases TextSet.ext_values _ _ evidence
  cases TextSet.ext_values _ _ notes
  rfl

end GrowthCandidate

theorem build_ok (fields : CandidateFields) (demands : List DemandInput)
    (evidence notes : List String) (candidate : GrowthCandidate) :
    GrowthCandidate.build fields demands evidence notes = .ok candidate ↔
      candidate.fields = fields ∧ candidate.demandInputs = sortedSet demands ∧
        candidate.evidenceIds.values = sortedSet evidence ∧
        candidate.coverageNotes.values = sortedSet notes := by
  unfold GrowthCandidate.build
  constructor
  · intro built
    split at built
    · split at built
      · split at built
        · split at built
          · cases built
            exact ⟨rfl, rfl, rfl, rfl⟩
          · cases built
        · cases built
      · cases built
    · cases built
  · rintro ⟨own, demandsSame, evidenceSame, notesSame⟩
    have demandsFit : fitsCollection (sortedSet demands) = true :=
      (fits_iff _).mpr (demandsSame ▸ ⟨candidate.demandsRequired, candidate.demandsBounded⟩)
    have evidenceFit : fitsCollection (sortedSet evidence) = true ∧
        ∀ identifier ∈ sortedSet evidence, evidenceShape identifier = true :=
      ⟨(fits_iff _).mpr (evidenceSame ▸ ⟨candidate.evidenceRequired, candidate.evidenceBounded⟩),
        evidenceSame ▸ candidate.evidenceValid⟩
    have notesFit : fitsCollection (sortedSet notes) = true :=
      (fits_iff _).mpr (notesSame ▸ ⟨candidate.notesRequired, candidate.notesBounded⟩)
    have notesValid : ∀ note ∈ sortedSet notes, validText note = true :=
      notesSame ▸ candidate.notesValid
    rw [dif_pos demandsFit, dif_pos evidenceFit, dif_pos notesFit, dif_pos notesValid,
      Except.ok.injEq]
    exact GrowthCandidate.ext_fields _ _ own.symm demandsSame.symm evidenceSame.symm notesSame.symm

end DosWeb.Growth
