import DosWeb.Growth.Candidates
import DosWeb.Production.CodecLaws

/-!
The record of a growth candidate: how it is written, which records are read, and which of them are
read strictly.
-/

namespace DosWeb.Production

open Library.JsonValue Library.JsonRecord Library.JsonText
open Library.OrderedSet Growth

section

variable {F : Type}

def siteMembers (site : SourceLocation) : Members F :=
  [("file", .str site.file.1), ("start_line", .int site.startLine.1)]

def demandMembers (demand : DemandInput) : Members F :=
  [("name", .str demand.name.1), ("role", .str demand.role.text)]

def pointMembers (candidate : GrowthCandidate) : Members F :=
  [("resource_id", .str candidate.resourceId), ("dimension", .str candidate.resourceDimension.text),
    ("receiver", .str candidate.receiver.1), ("field_path", .str candidate.fieldPath.1)]

def candidateMembers (candidate : GrowthCandidate) : Members F :=
  [("growth_id", .str candidate.growthId), ("site", .obj (siteMembers candidate.site)),
    ("kind", .str candidate.kind.text), ("operation", .str candidate.operation.1),
    ("resource_point", .obj (pointMembers candidate)),
    ("demand_inputs", .arr (candidate.demandInputs.map fun demand => .obj (demandMembers demand))),
    ("escape_scope", .str candidate.escapeScope.text),
    ("candidate_evidence", .arr (candidate.evidenceIds.values.map .str)),
    ("coverage_status", .str candidate.coverageStatus.text),
    ("coverage_notes", .arr (candidate.coverageNotes.values.map .str))]

def candidateFields : List String :=
  ["growth_id", "site", "kind", "operation", "resource_point", "demand_inputs", "escape_scope",
    "candidate_evidence", "coverage_status", "coverage_notes"]

def siteFields : List String := ["file", "start_line"]

def pointFields : List String := ["resource_id", "dimension", "receiver", "field_path"]

def demandFields : List String := ["name", "role"]

variable (F) in
structure CandidateParts where
  record : Members F
  site : Members F
  point : Members F
  demands : List (Json F)
  evidence : List (Json F)
  notes : List (Json F)

def CandidateParts.resource (parts : CandidateParts F) : List (Json F) :=
  [get parts.point "dimension", get parts.point "receiver", get parts.point "field_path"]

/-- The values of the candidate's identifier as far as they are the record's. -/
def CandidateParts.digested (parts : CandidateParts F) : List (Json F) :=
  [get parts.record "kind", get parts.record "operation", get parts.point "dimension",
    get parts.point "receiver", get parts.point "field_path", get parts.record "escape_scope",
    .arr parts.evidence, get parts.record "coverage_status", .arr parts.notes]

def partsOf (value : Json F) : Option (CandidateParts F) := do
  let record ← objectOf value
  guard (fieldSet record = sortedSet candidateFields)
  let site ← objectOf (get record "site")
  guard (fieldSet site = sortedSet siteFields)
  let point ← objectOf (get record "resource_point")
  guard (fieldSet point = sortedSet pointFields)
  let demands ← arrayOf (get record "demand_inputs")
  let evidence ← arrayOf (get record "candidate_evidence")
  let notes ← arrayOf (get record "coverage_notes")
  return ⟨record, site, point, demands, evidence, notes⟩

def demandOf (item : Json F) : Option (Members F) :=
  (objectOf item).filter fun members => fieldSet members = sortedSet demandFields

/-- The demands of a list; items that are none are passed over. -/
def readDemands : List (Json F) → Checked (List DemandInput)
  | [] => .ok []
  | item :: items =>
    match demandOf item with
    | none => readDemands items
    | some members => do
        let demand ← demandInput (get members "name") (get members "role")
        let demands ← readDemands items
        return demand :: demands

def hashable : Json F → Bool
  | .arr _ => false
  | .obj _ => false
  | _ => true

def insistHashable (items : List (Json F)) : Decoded Unit := insist (items.all hashable) .typeError

def insistComparable (items : List (Json F)) : Decoded Unit :=
  insist ((items.mapM plainText).isSome || items.all isNumber || items.all isNull) .typeError

def valueMalformed : Fault :=
  .raised (.valueError "Out of range float values are not JSON compliant")

variable [FloatText F]

def insistPrintable (values : List (Json F)) : Decoded Unit :=
  insist (printable maxIntegerDigits (.arr values)) valueMalformed

def readFieldsOf (parts : CandidateParts F) (site : SourceLocation) : Checked CandidateFields := do
  let kind ← growthEnum growthKinds GrowthKind.text (get parts.record "kind") "kind"
  let operation ← growthString (get parts.record "operation") "operation"
  let dimension ← growthEnum resourceDimensions ResourceDimension.text
    (get parts.point "dimension") "resource_dimension"
  let scope ← growthEnum escapeScopes EscapeScope.text (get parts.record "escape_scope")
    "escape_scope"
  let status ← growthEnum coverageStatuses CandidateCoverageStatus.text
    (get parts.record "coverage_status") "coverage_status"
  let receiver ← growthString (get parts.point "receiver") "receiver"
  let fieldPath ← growthString (get parts.point "field_path") "field_path"
  return ⟨site, kind, operation, dimension, receiver, fieldPath, scope, status⟩

/-- The candidate of the fields, where evidence and notes are texts. -/
def constructed (fields : CandidateFields) (demands : List DemandInput)
    (evidence notes : List (Json F)) : Checked GrowthCandidate :=
  match evidence.mapM plainText, notes.mapM plainText with
  | some evidence, some notes => GrowthCandidate.build fields demands evidence notes
  | none, _ => do
      require (fitsCollection (sortedSet demands))
        (growthInvalid "DEMAND_INPUTS_INVALID" (some "demand_inputs"))
      .error (growthInvalid "EVIDENCE_INVALID" (some "evidence_ids"))
  | some evidence, none => do
      require (fitsCollection (sortedSet demands))
        (growthInvalid "DEMAND_INPUTS_INVALID" (some "demand_inputs"))
      require (fitsCollection (sortedSet evidence) && evidence.all evidenceShape)
        (growthInvalid "EVIDENCE_INVALID" (some "evidence_ids"))
      -- more than 64 distinct numbers are refused for their count instead
      .error (growthInvalid "STRING_REQUIRED" (some "coverage_notes"))

/-- `create` hashes the values as they are before the constructor looks at any of them. -/
def createParts (parts : CandidateParts F) (site : SourceLocation) (demands : List DemandInput) :
    Decoded GrowthCandidate := do
  insistHashable parts.evidence
  insistPrintable parts.resource
  insistHashable parts.notes
  insistComparable parts.notes
  insistComparable parts.evidence
  insistPrintable parts.digested
  let fields ← lifted (readFieldsOf parts site)
  lifted (constructed fields demands parts.evidence parts.notes)

def candidateFromDict (value : Json F) : Decoded GrowthCandidate :=
  match partsOf value with
  | none => .error (.raised (growthInvalid "RECORD_FIELDS_INVALID"))
  | some parts => do
      let site ← lifted (sourceLocation (get parts.site "file") (get parts.site "start_line"))
      let demands ← lifted (readDemands parts.demands)
      let candidate ← createParts parts site demands
      insist (isText candidate.growthId (get parts.record "growth_id") &&
          isText candidate.resourceId (get parts.point "resource_id"))
        (.raised (growthInvalid "IDENTIFIER_MISMATCH"))
      return candidate

end

section

def Refuses {α : Type} (outcome : Checked α) : Prop :=
  ∀ raised, outcome = .error raised → ∃ error, raised = .analyzer error

variable {α β : Type}

theorem refuses_ok (value : α) : Refuses (.ok value) := nofun

theorem refuses_growth (reason : String) (field : Option String) :
    Refuses (.error (growthInvalid reason field) : Checked α) := by
  intro raised same
  cases same
  exact ⟨_, rfl⟩

theorem refuses_text (text field : String) :
    Refuses (.error (textInvalid text field) : Checked α) := by
  unfold textInvalid
  split
  · exact refuses_growth _ _
  · exact refuses_growth _ _

theorem refuses_bind (first : Checked α) (next : α → Checked β) (own : Refuses first)
    (rest : ∀ value, Refuses (next value)) : Refuses (first >>= next) := by
  cases first with
  | error raised => exact fun other same => own other (by cases same; rfl)
  | ok value => exact rest value

theorem refuses_require (condition : Bool) (reason : String) (field : Option String) :
    Refuses (require condition (growthInvalid reason field)) := by
  unfold require
  split
  · exact refuses_ok _
  · exact refuses_growth _ _

theorem orderly_lifted (outcome : Checked α) (refuses : Refuses outcome) :
    Orderly (lifted outcome) := by
  cases outcome with
  | ok value => exact orderly_ok value
  | error raised =>
    obtain ⟨error, rfl⟩ := refuses raised rfl
    exact (orderly_error _).mpr ⟨error, rfl⟩

variable {F : Type}

theorem string_refuses (value : Json F) (field : String) : Refuses (growthString value field) := by
  unfold growthString
  split
  · split
    · exact refuses_ok _
    · exact refuses_text _ _
  · exact refuses_growth _ _

theorem enum_refuses (members : List α) (text : α → String) (value : Json F) (field : String) :
    Refuses (growthEnum members text value field) := by
  apply refuses_bind _ _ (string_refuses value field)
  intro valid
  split
  · exact refuses_ok _
  · exact refuses_growth _ _

theorem location_refuses (file line : Json F) : Refuses (sourceLocation file line) := by
  apply refuses_bind
  · apply refuses_bind _ _ (string_refuses _ _)
    intro text
    split
    · exact refuses_ok _
    · exact refuses_growth _ _
  · intro path
    apply refuses_bind
    · unfold growthLine
      split
      · split
        · exact refuses_ok _
        · exact refuses_growth _ _
      · exact refuses_growth _ _
    · exact fun number => refuses_ok _

theorem demand_refuses (name role : Json F) : Refuses (demandInput name role) := by
  apply refuses_bind _ _ (string_refuses _ _)
  intro text
  apply refuses_bind _ _ (enum_refuses _ _ _ _)
  exact fun own => refuses_ok _

theorem demands_refuse (items : List (Json F)) : Refuses (readDemands items) := by
  induction items with
  | nil => exact refuses_ok _
  | cons item items ih =>
    unfold readDemands
    split
    · exact ih
    · apply refuses_bind _ _ (demand_refuses _ _)
      intro demand
      exact refuses_bind _ _ ih fun demands => refuses_ok _

theorem fields_refuse (parts : CandidateParts F) (site : SourceLocation) :
    Refuses (readFieldsOf parts site) := by
  apply refuses_bind _ _ (enum_refuses _ _ _ _)
  intro kind
  apply refuses_bind _ _ (string_refuses _ _)
  intro operation
  apply refuses_bind _ _ (enum_refuses _ _ _ _)
  intro dimension
  apply refuses_bind _ _ (enum_refuses _ _ _ _)
  intro scope
  apply refuses_bind _ _ (enum_refuses _ _ _ _)
  intro status
  apply refuses_bind _ _ (string_refuses _ _)
  intro receiver
  exact refuses_bind _ _ (string_refuses _ _) fun fieldPath => refuses_ok _

theorem build_refuses (fields : CandidateFields) (demands : List DemandInput)
    (evidence notes : List String) :
    Refuses (GrowthCandidate.build fields demands evidence notes) := by
  unfold GrowthCandidate.build
  split
  · split
    · split
      · split
        · exact refuses_ok _
        · unfold noteInvalid
          split
          · exact refuses_text _ _
          · exact refuses_growth _ _
      · exact refuses_growth _ _
    · exact refuses_growth _ _
  · exact refuses_growth _ _

theorem constructed_refuses (fields : CandidateFields) (demands : List DemandInput)
    (evidence notes : List (Json F)) : Refuses (constructed fields demands evidence notes) := by
  unfold constructed
  split
  · exact build_refuses _ _ _ _
  · exact refuses_bind _ _ (refuses_require _ _ _) fun _ => refuses_growth _ _
  · apply refuses_bind _ _ (refuses_require _ _ _)
    intro _
    exact refuses_bind _ _ (refuses_require _ _ _) fun _ => refuses_growth _ _

end

section

variable {F : Type}

theorem parts_of_iff (value : Json F) (parts : CandidateParts F) :
    partsOf value = some parts ↔ value = .obj parts.record ∧
      fieldSet parts.record = sortedSet candidateFields ∧
      get parts.record "site" = .obj parts.site ∧ fieldSet parts.site = sortedSet siteFields ∧
      get parts.record "resource_point" = .obj parts.point ∧
      fieldSet parts.point = sortedSet pointFields ∧
      get parts.record "demand_inputs" = .arr parts.demands ∧
      get parts.record "candidate_evidence" = .arr parts.evidence ∧
      get parts.record "coverage_notes" = .arr parts.notes := by
  have members : ∀ (item : Json F) own, objectOf item = some own ↔ item = .obj own := by
    intro item own
    cases item <;> simp [objectOf]
  have items : ∀ (item : Json F) own, arrayOf item = some own ↔ item = .arr own := by
    intro item own
    cases item <;> simp [arrayOf]
  have guarded : ∀ (condition : Prop) [Decidable condition] (nothing : Unit),
      (guard condition : Option Unit) = some nothing ↔ condition := by
    intro condition _ nothing
    by_cases held : condition <;> simp [guard, held, failure]
  unfold partsOf
  simp only [some_bind, guarded, members, items]
  constructor
  · rintro ⟨record, own, -, fields, site, sited, -, siteNamed, point, pointed, -, pointNamed,
      demands, listed, evidence, found, notes, noted, same⟩
    cases same
    exact ⟨own, fields, sited, siteNamed, pointed, pointNamed, listed, found, noted⟩
  · rintro ⟨own, fields, sited, siteNamed, pointed, pointNamed, listed, found, noted⟩
    exact ⟨_, own, (), fields, _, sited, (), siteNamed, _, pointed, (), pointNamed, _, listed, _,
      found, _, noted, rfl⟩

/-- The demand that the members of an item write down. -/
def Writes (members : Members F) (demand : DemandInput) : Prop :=
  get members "name" = .str demand.name.1 ∧ get members "role" = .str demand.role.text

theorem demand_ok (name role : Json F) (demand : DemandInput) : demandInput name role = .ok demand ↔
      name = .str demand.name.1 ∧ role = .str demand.role.text := by
  obtain ⟨own, held⟩ := demand
  simp only [demandInput, bind_ok, growth_string_ok, role_ok]
  constructor
  · rintro ⟨text, rfl, given, rfl, same⟩
    cases same
    exact ⟨rfl, rfl⟩
  · rintro ⟨rfl, rfl⟩
    exact ⟨own, rfl, held, rfl, rfl⟩

theorem read_demands_ok (items : List (Json F)) (demands : List DemandInput) :
    readDemands items = .ok demands ↔ List.Forall₂ Writes (items.filterMap demandOf) demands := by
  induction items generalizing demands with
  | nil =>
    constructor
    · intro read
      cases read
      exact .nil
    · intro none_
      cases none_
      rfl
  | cons item items ih =>
    unfold readDemands
    cases own : demandOf item with
    | none =>
      rw [List.filterMap_cons_none own]
      exact ih demands
    | some members =>
      rw [List.filterMap_cons_some own]
      simp only [bind_ok, demand_ok, ih]
      constructor
      · rintro ⟨demand, first, others, rest, same⟩
        cases same
        exact .cons first rest
      · intro all
        cases all with
        | cons first rest => exact ⟨_, first, _, rest, rfl⟩

structure FieldsWritten (parts : CandidateParts F) (candidate : GrowthCandidate) : Prop where
  kind : get parts.record "kind" = .str candidate.kind.text
  operation : get parts.record "operation" = .str candidate.operation.1
  dimension : get parts.point "dimension" = .str candidate.resourceDimension.text
  scope : get parts.record "escape_scope" = .str candidate.escapeScope.text
  status : get parts.record "coverage_status" = .str candidate.coverageStatus.text
  receiver : get parts.point "receiver" = .str candidate.receiver.1
  fieldPath : get parts.point "field_path" = .str candidate.fieldPath.1

theorem candidate_fields_ok (parts : CandidateParts F) (site : SourceLocation)
    (candidate : GrowthCandidate) : readFieldsOf parts site = .ok candidate.fields ↔
      site = candidate.site ∧ FieldsWritten parts candidate := by
  simp only [readFieldsOf, bind_ok, kind_ok, growth_string_ok, dimension_ok, scope_ok, status_ok]
  constructor
  · rintro ⟨kind, one, operation, two, dimension, three, scope, four, status, five, receiver, six,
      fieldPath, seven, same⟩
    cases same
    exact ⟨rfl, one, two, three, four, five, six, seven⟩
  · rintro ⟨rfl, one, two, three, four, five, six, seven⟩
    exact ⟨_, one, _, two, _, three, _, four, _, five, _, six, _, seven, rfl⟩

theorem constructed_ok (fields : CandidateFields) (demands : List DemandInput)
    (evidence notes : List (Json F)) (candidate : GrowthCandidate) :
    constructed fields demands evidence notes = .ok candidate ↔
      ∃ evidenceTexts noteTexts : List String, evidence = evidenceTexts.map .str ∧
        notes = noteTexts.map .str ∧
        GrowthCandidate.build fields demands evidenceTexts noteTexts = .ok candidate := by
  unfold constructed
  constructor
  · intro made
    split at made
    · rename_i evidenceTexts noteTexts first second
      exact ⟨evidenceTexts, noteTexts, (plain_texts_iff _ _).mp first,
        (plain_texts_iff _ _).mp second, made⟩
    · obtain ⟨-, -, raised⟩ := bind_ok.mp made
      cases raised
    · obtain ⟨-, -, rest⟩ := bind_ok.mp made
      obtain ⟨-, -, raised⟩ := bind_ok.mp rest
      cases raised
  · rintro ⟨evidenceTexts, noteTexts, rfl, rfl, made⟩
    rw [(plain_texts_iff _ evidenceTexts).mpr rfl, (plain_texts_iff _ noteTexts).mpr rfl]
    exact made

end

variable {F : Type} [FloatText F]

/-- What a set and a digest can be made of: evidence and notes that compare, and values that have
a text. -/
structure Hashed (parts : CandidateParts F) : Prop where
  evidence : Comparable parts.evidence
  notes : Comparable parts.notes
  printed : printable maxIntegerDigits (.arr parts.digested) = true

omit [FloatText F] in
theorem comparable_iff (items : List (Json F)) :
    ((items.mapM plainText).isSome || items.all isNumber || items.all isNull) = true ↔
      Comparable items := by
  rw [Bool.or_eq_true, Bool.or_eq_true, or_assoc, Option.isSome_iff_exists]
  simp only [plain_texts_iff]
  exact Iff.rfl

omit [FloatText F] in
theorem comparable_hashable (items : List (Json F)) (comparable : Comparable items) :
    items.all hashable = true := by
  rw [List.all_eq_true]
  rcases comparable with ⟨texts, rfl⟩ | numbers | nulls
  · intro item member
    obtain ⟨text, -, rfl⟩ := List.mem_map.mp member
    rfl
  · intro item member
    have own := List.all_eq_true.mp numbers item member
    cases item <;> first | rfl | cases own
  · intro item member
    have own := List.all_eq_true.mp nulls item member
    cases item <;> first | rfl | cases own

omit [FloatText F] in
theorem orderly_insist {α : Type} (condition : Bool) (fault : Fault) (next : Unit → Decoded α)
    (other : ∀ error, fault ≠ .raised (.analyzer error)) :
    Orderly (insist condition fault >>= next) ↔ condition = true ∧ Orderly (next ()) := by
  unfold insist
  split
  · rename_i held
    exact (and_iff_right held).symm
  · rename_i refused
    refine iff_of_false ?_ fun both => refused both.1
    intro orderly
    obtain ⟨error, same⟩ := orderly fault rfl
    exact other error same

variable (parts : CandidateParts F)

theorem printed_part (printed : printable maxIntegerDigits (.arr parts.digested) = true) :
    printable maxIntegerDigits (.arr parts.resource) = true := by
  simp only [CandidateParts.digested, CandidateParts.resource, printable, printableItems,
    Bool.and_eq_true] at printed ⊢
  exact ⟨printed.2.2.1, printed.2.2.2.1, printed.2.2.2.2.1, trivial⟩

theorem orderly_create_parts (site : SourceLocation)
    (demands : List DemandInput) : Orderly (createParts parts site demands) ↔ Hashed parts := by
  have unhashed : ∀ error, Fault.typeError ≠ .raised (.analyzer error) := nofun
  have malformed : ∀ error, valueMalformed ≠ .raised (.analyzer error) := nofun
  have rest : Orderly (lifted (readFieldsOf parts site) >>= fun fields =>
      lifted (constructed fields demands parts.evidence parts.notes)) := by
    refine (orderly_bind _ _).mpr ⟨orderly_lifted _ (fields_refuse parts site), ?_⟩
    exact fun fields _ => orderly_lifted _ (constructed_refuses fields demands _ _)
  unfold createParts insistHashable insistPrintable insistComparable
  rw [orderly_insist _ _ _ unhashed, orderly_insist _ _ _ malformed, orderly_insist _ _ _ unhashed,
    orderly_insist _ _ _ unhashed, orderly_insist _ _ _ unhashed, orderly_insist _ _ _ malformed,
    comparable_iff, comparable_iff]
  constructor
  · rintro ⟨-, -, -, notes, evidence, printed, -⟩
    exact ⟨evidence, notes, printed⟩
  · rintro ⟨evidence, notes, printed⟩
    exact ⟨comparable_hashable _ evidence, printed_part parts printed, comparable_hashable _ notes,
      notes, evidence, printed, rest⟩

structure Represents (parts : CandidateParts F) (candidate : GrowthCandidate) : Prop where
  site : sourceLocation (get parts.site "file") (get parts.site "start_line") = .ok candidate.site
  fields : FieldsWritten parts candidate
  demands : ∃ demands, List.Forall₂ Writes (parts.demands.filterMap demandOf) demands ∧
    candidate.demandInputs = sortedSet demands
  evidence : ∃ texts : List String, parts.evidence = texts.map .str ∧
    candidate.evidenceIds.values = sortedSet texts
  notes : ∃ texts : List String, parts.notes = texts.map .str ∧
    candidate.coverageNotes.values = sortedSet texts
  growthId : get parts.record "growth_id" = .str candidate.growthId
  resourceId : get parts.point "resource_id" = .str candidate.resourceId

theorem create_parts_ok (site : SourceLocation)
    (demands : List DemandInput) (candidate : GrowthCandidate) :
    createParts parts site demands = .ok candidate ↔
      site = candidate.site ∧ FieldsWritten parts candidate ∧
        candidate.demandInputs = sortedSet demands ∧
        (∃ texts : List String, parts.evidence = texts.map .str ∧
          candidate.evidenceIds.values = sortedSet texts) ∧
        ∃ texts : List String, parts.notes = texts.map .str ∧
          candidate.coverageNotes.values = sortedSet texts := by
  unfold createParts insistHashable insistPrintable insistComparable
  simp only [bind_ok, insist_ok, lifted_ok, constructed_ok, build_ok, comparable_iff]
  constructor
  · rintro ⟨-, -, -, -, -, -, -, -, -, -, -, -, fields, read, evidence, notes, evidenceSame,
      notesSame, rfl, demandsSame, evidenceValues, noteValues⟩
    obtain ⟨own, written⟩ := (candidate_fields_ok parts site candidate).mp read
    exact ⟨own, written, demandsSame, ⟨evidence, evidenceSame, evidenceValues⟩,
      ⟨notes, notesSame, noteValues⟩⟩
  · rintro ⟨own, written, demandsSame, ⟨evidence, evidenceSame, evidenceValues⟩,
      ⟨notes, notesSame, noteValues⟩⟩
    have comparable : Comparable parts.evidence ∧ Comparable parts.notes :=
      ⟨Or.inl ⟨evidence, evidenceSame⟩, Or.inl ⟨notes, notesSame⟩⟩
    have printed : printable maxIntegerDigits (.arr parts.digested) = true := by
      rw [CandidateParts.digested, written.kind, written.operation, written.dimension,
        written.receiver, written.fieldPath, written.scope, written.status, evidenceSame, notesSame]
      simp only [printable, printableItems, Bool.and_eq_true, and_true, true_and]
      exact ⟨texts_printed evidence, texts_printed notes⟩
    refine ⟨(), comparable_hashable _ comparable.1, (), printed_part parts printed, (),
      comparable_hashable _ comparable.2, (), comparable.2, (), comparable.1, (), printed,
      candidate.fields, (candidate_fields_ok parts site candidate).mpr ⟨own, written⟩, evidence,
      notes, evidenceSame, notesSame, rfl, demandsSame, evidenceValues, noteValues⟩

theorem from_dict_ok (value : Json F) (candidate : GrowthCandidate) :
    candidateFromDict value = .ok candidate ↔
      ∃ parts, partsOf value = some parts ∧ Represents parts candidate := by
  unfold candidateFromDict
  cases found : partsOf value with
  | none => simp
  | some parts =>
    simp only [bind_ok, lifted_ok, create_parts_ok, insist_ok, Bool.and_eq_true, is_text,
      read_demands_ok, Option.some.injEq, exists_eq_left']
    constructor
    · rintro ⟨site, sited, demands, read, own, ⟨rfl, fields, demandsSame, evidence, notes⟩, -,
        ids, same⟩
      cases same
      exact ⟨sited, fields, ⟨demands, read, demandsSame⟩, evidence, notes, ids.1, ids.2⟩
    · intro represents
      obtain ⟨demands, read, demandsSame⟩ := represents.demands
      exact ⟨candidate.site, represents.site, demands, read, candidate,
        ⟨rfl, represents.fields, demandsSame, represents.evidence, represents.notes⟩, (),
        ⟨represents.growthId, represents.resourceId⟩, rfl⟩

/-- Only errors of the analyzer are raised where a record that comes to the digests can be
hashed. -/
theorem orderly_from_dict (value : Json F) : Orderly (candidateFromDict value) ↔
    ∀ parts, partsOf value = some parts →
      (∃ site, sourceLocation (get parts.site "file") (get parts.site "start_line") = .ok site) →
      (∃ demands, readDemands parts.demands = .ok demands) → Hashed parts := by
  unfold candidateFromDict
  cases found : partsOf value with
  | none =>
    refine iff_of_true ?_ nofun
    exact (orderly_error _).mpr ⟨_, rfl⟩
  | some parts =>
    have last : ∀ candidate : GrowthCandidate, Orderly
        (insist (isText candidate.growthId (get parts.record "growth_id") &&
          isText candidate.resourceId (get parts.point "resource_id"))
          (.raised (growthInvalid "IDENTIFIER_MISMATCH")) >>= fun _ =>
            (pure candidate : Decoded GrowthCandidate)) := by
      intro candidate
      refine (orderly_bind _ _).mpr ⟨?_, fun _ _ => orderly_ok candidate⟩
      unfold insist
      split
      · exact orderly_ok _
      · exact (orderly_error _).mpr ⟨_, rfl⟩
    simp only [orderly_bind, lifted_ok, orderly_create_parts, Option.some.injEq, forall_eq']
    constructor
    · rintro ⟨-, rest⟩ ⟨site, sited⟩ ⟨demands, read⟩
      exact ((rest site sited).2 demands read).1
    · intro hashed
      refine ⟨orderly_lifted _ (location_refuses _ _), fun site sited => ?_⟩
      refine ⟨orderly_lifted _ (demands_refuse _), fun demands read => ?_⟩
      refine ⟨hashed ⟨site, sited⟩ ⟨demands, read⟩, fun candidate _ => ?_⟩
      exact (orderly_bind _ _).mp (last candidate)

end DosWeb.Production
