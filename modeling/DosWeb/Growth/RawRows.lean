import DosWeb.CanonicalMembers
import DosWeb.Growth.Candidates
import DosWeb.Library.Grouping

/-!
Raw growth rows: the rows of one site, operation and resource are merged into one candidate, in
whatever order they come.
-/

namespace DosWeb.Growth

open Library Library.Grouping Library.JsonValue Library.JsonRecord Library.OrderedSet Identifiers
open Entries (FieldText)

structure RowKey where
  site : SourceLocation
  kind : GrowthKind
  operation : FieldText
  dimension : ResourceDimension
  receiver : FieldText
  fieldPath : FieldText
  escapeScope : EscapeScope
  deriving DecidableEq

structure GrowthRow where
  key : RowKey
  demand : DemandInput
  evidenceId : String
  coverageStatus : CandidateCoverageStatus
  coverageNote : FieldText

def GrowthCandidate.key (candidate : GrowthCandidate) : RowKey :=
  ⟨candidate.site, candidate.kind, candidate.operation, candidate.resourceDimension,
    candidate.receiver, candidate.fieldPath, candidate.escapeScope⟩

def growthColumns : List String :=
  ["site_file", "site_start_line", "growth_kind", "operation", "resource_dimension", "receiver",
    "field_path", "demand_input_name", "demand_input_role", "escape_scope", "candidate_evidence",
    "coverage_status", "coverage_note"]

def growthProvenance : List String := ["query_name", "query_sha256", "site_location"]

def maxGrowthRows : Nat := 4096

section

variable {F : Type}

/-- The identifier of a piece of evidence; one is derived for a text that is none. -/
def evidenceId (value : Json F) (site : SourceLocation) : Checked String := do
  let evidence ← growthString value "candidate_evidence"
  if Text.startsWith evidence.1 "fact:" then do
    require (evidenceShape evidence.1) (growthInvalid "EVIDENCE_ID_INVALID" "candidate_evidence")
    return evidence.1
  else
    return stableIdentifier "fact"
      [("candidate_evidence", .str evidence.1), ("site", site.toDict)]

def validatedRaw (raw : Json F) : Checked GrowthRow :=
  match objectOf raw with
  | none => .error (growthInvalid "RAW_FIELDS_INVALID")
  | some record => do
      require (fieldSet record = sortedSet (growthColumns ++ growthProvenance))
        (growthInvalid "RAW_FIELDS_INVALID")
      let status ← growthEnum coverageStatuses CandidateCoverageStatus.text
        (get record "coverage_status") "coverage_status"
      let note ← growthString (get record "coverage_note") "coverage_note"
      let site ← sourceLocation (get record "site_file") (get record "site_start_line")
      let kind ← growthEnum growthKinds GrowthKind.text (get record "growth_kind") "growth_kind"
      let operation ← growthString (get record "operation") "operation"
      let dimension ← growthEnum resourceDimensions ResourceDimension.text
        (get record "resource_dimension") "resource_dimension"
      let receiver ← growthString (get record "receiver") "receiver"
      let fieldPath ← growthString (get record "field_path") "field_path"
      let demand ← demandInput (get record "demand_input_name") (get record "demand_input_role")
      let scope ← growthEnum escapeScopes EscapeScope.text (get record "escape_scope")
        "escape_scope"
      let evidence ← evidenceId (get record "candidate_evidence") site
      return ⟨⟨site, kind, operation, dimension, receiver, fieldPath, scope⟩, demand, evidence,
        status, note⟩

def keyIdentity (key : RowKey) : Members Empty :=
  [("site", key.site.toDict), ("kind", .str key.kind.text), ("operation", .str key.operation.1),
    ("resource_dimension", .str key.dimension.text), ("receiver", .str key.receiver.1),
    ("field_path", .str key.fieldPath.1), ("escape_scope", .str key.escapeScope.text)]

def keyBytes (key : RowKey) : List UInt8 := canonicalJson (.obj (keyIdentity key) : PlainJson)

/-- One complete row less makes the candidate incomplete. -/
def mergedStatus (rows : List GrowthRow) : CandidateCoverageStatus :=
  if rows.any fun row => row.coverageStatus ≠ .complete then .partialCoverage else .complete

def mergedFields (key : RowKey) (status : CandidateCoverageStatus) : CandidateFields :=
  ⟨key.site, key.kind, key.operation, key.dimension, key.receiver, key.fieldPath, key.escapeScope,
    status⟩

def candidateFromRows (rows : List (Json F)) : Checked GrowthCandidate := do
  let normalized ← rows.mapM validatedRaw
  match normalized with
  | [] => .error (growthInvalid "ROWS_REQUIRED")
  | first :: others => do
      require (others.all fun row => row.key = first.key) (growthInvalid "ROW_GROUP_MISMATCH")
      GrowthCandidate.build (mergedFields first.key (mergedStatus (first :: others)))
        ((first :: others).map (·.demand)) ((first :: others).map (·.evidenceId))
        ((first :: others).map (·.coverageNote.1))

/-- A row with the bytes that its group is found under. -/
def keyedRow (raw : Json F) : Checked (List UInt8 × Json F) := do
  let row ← validatedRaw raw
  return (keyBytes row.key, raw)

def identityBytes (candidate : GrowthCandidate) : List UInt8 :=
  canonicalJson (.obj candidate.semanticIdentity : PlainJson)

def growthCandidates (rows : List (Json F)) : Checked (List GrowthCandidate) := do
  require (rows.length ≤ maxGrowthRows) (growthInvalid "ROW_LIMIT")
  let keyed ← rows.mapM keyedRow
  let groups := (group Prod.fst keyed).insertionSort fun left right => left.1 ≤ right.1
  let candidates ← groups.mapM fun held => candidateFromRows (held.2.map Prod.snd)
  return candidates.insertionSort fun left right => identityBytes left ≤ identityBytes right

def GrowthCandidate.toDict (candidate : GrowthCandidate) : PlainJson :=
  .obj [("growth_id", .str candidate.growthId), ("site", candidate.site.toDict),
    ("kind", .str candidate.kind.text), ("operation", .str candidate.operation.1),
    ("resource_point", candidate.resourcePoint),
    ("demand_inputs", .arr (candidate.demandInputs.map DemandInput.toDict)),
    ("escape_scope", .str candidate.escapeScope.text),
    ("candidate_evidence", .arr (candidate.evidenceIds.values.map .str)),
    ("coverage_status", .str candidate.coverageStatus.text),
    ("coverage_notes", .arr (candidate.coverageNotes.values.map .str))]

def normalizeGrowthRows (rows : List (Json F)) : Checked (List PlainJson) := do
  let candidates ← growthCandidates rows
  return candidates.map GrowthCandidate.toDict

end

section

attribute [ext] SourceLocation

theorem site_of_dict (left right : SourceLocation)
    (same : JsonValue.normalize left.toDict = JsonValue.normalize right.toDict) : left = right := by
  have get := normal_get _ _ (by simp [DistinctKeys, DistinctMembers])
    (by simp [DistinctKeys, DistinctMembers]) same
  have file : left.file.1 = right.file.1 := Json.str.inj (get "file")
  have line : (left.startLine.1 : Int) = right.startLine.1 := Json.int.inj (get "start_line")
  exact SourceLocation.ext (Subtype.ext file) (Subtype.ext (Int.ofNat.inj line))

theorem kind_text_injective (left right : GrowthKind) (same : left.text = right.text) :
    left = right := by
  cases left <;> cases right <;> first | rfl | exact absurd same (by decide)

theorem dimension_text_injective (left right : ResourceDimension) (same : left.text = right.text) :
    left = right := by
  cases left <;> cases right <;> first | rfl | exact absurd same (by decide)

theorem scope_text_injective (left right : EscapeScope) (same : left.text = right.text) :
    left = right := by
  cases left <;> cases right <;> first | rfl | exact absurd same (by decide)

def keyNames : List String :=
  ["site", "kind", "operation", "resource_dimension", "receiver", "field_path", "escape_scope"]

theorem key_of_fields (left right : RowKey)
    (same : ∀ name ∈ keyNames, JsonValue.normalize (get (keyIdentity left) name) =
      JsonValue.normalize (get (keyIdentity right) name)) : left = right := by
  have site := site_of_dict _ _ (same "site" (by decide))
  have kind : left.kind.text = right.kind.text := Json.str.inj (same "kind" (by decide))
  have operation : left.operation.1 = right.operation.1 :=
    Json.str.inj (same "operation" (by decide))
  have dimension : left.dimension.text = right.dimension.text :=
    Json.str.inj (same "resource_dimension" (by decide))
  have receiver : left.receiver.1 = right.receiver.1 := Json.str.inj (same "receiver" (by decide))
  have fieldPath : left.fieldPath.1 = right.fieldPath.1 :=
    Json.str.inj (same "field_path" (by decide))
  have scope : left.escapeScope.text = right.escapeScope.text :=
    Json.str.inj (same "escape_scope" (by decide))
  cases left
  cases right
  cases site
  obtain rfl := kind_text_injective _ _ kind
  obtain rfl := dimension_text_injective _ _ dimension
  obtain rfl := scope_text_injective _ _ scope
  cases Subtype.ext operation
  cases Subtype.ext receiver
  cases Subtype.ext fieldPath
  rfl

variable (left right : GrowthCandidate)

theorem demands_distinct (demands : List DemandInput) :
    DistinctKeys (.arr (demands.map DemandInput.toDict) : PlainJson) := by
  apply (distinctItems_iff _).mpr
  intro item inside
  obtain ⟨demand, -, rfl⟩ := List.mem_map.mp inside
  simp [DistinctKeys, DistinctMembers, DemandInput.toDict]

theorem semantic_distinct (candidate : GrowthCandidate) :
    DistinctKeys (.obj candidate.semanticIdentity) := by
  refine ⟨?_, ?_, trivial, trivial, trivial, trivial, trivial, trivial, demands_distinct _, trivial,
    texts_distinct _, trivial, texts_distinct _, trivial⟩
  · change ["site", "kind", "operation", "resource_id", "resource_dimension", "receiver",
      "field_path", "demand_inputs", "escape_scope", "evidence_ids", "coverage_status",
      "coverage_notes"].Nodup
    decide
  · simp [DistinctKeys, DistinctMembers, SourceLocation.toDict]

theorem key_of_identity (same : identityBytes left = identityBytes right) :
    left.key = right.key := by
  have each := canonical_get _ _ (semantic_distinct left) (semantic_distinct right) same
  apply key_of_fields
  simp only [keyNames, List.forall_mem_cons]
  exact ⟨each "site", each "kind", each "operation", each "resource_dimension", each "receiver",
    each "field_path", each "escape_scope", nofun⟩

end

section

variable {F : Type}

def rowFact (row : Json F) : Option GrowthRow := (validatedRaw row).toOption

theorem row_fact_iff (row : Json F) (fact : GrowthRow) :
    rowFact row = some fact ↔ validatedRaw row = .ok fact := by
  unfold rowFact
  cases validatedRaw row <;> simp [Except.toOption]

theorem validated_rows_iff (rows : List (Json F)) (facts : List GrowthRow) :
    rows.mapM validatedRaw = .ok facts ↔
      (∀ row ∈ rows, ∃ fact, rowFact row = some fact) ∧ facts = rows.filterMap rowFact := by
  rw [mapM_ok]
  constructor
  · intro all
    induction all with
    | nil => exact ⟨nofun, rfl⟩
    | cons own _ ih =>
      have first := (row_fact_iff _ _).mpr own
      refine ⟨List.forall_mem_cons.mpr ⟨⟨_, first⟩, ih.1⟩, ?_⟩
      rw [List.filterMap_cons_some first, ← ih.2]
  · rintro ⟨all, rfl⟩
    induction rows with
    | nil => exact .nil
    | cons row rows ih =>
      obtain ⟨⟨fact, first⟩, rest⟩ := List.forall_mem_cons.mp all
      rw [List.filterMap_cons_some first]
      exact .cons ((row_fact_iff row fact).mp first) (ih rest)

/-- A candidate has the key of all of its rows, and their values together. -/
structure Merged (facts : List GrowthRow) (candidate : GrowthCandidate) : Prop where
  filled : facts ≠ []
  keyed : ∀ fact ∈ facts, fact.key = candidate.key
  status : candidate.coverageStatus = mergedStatus facts
  demands : candidate.demandInputs = sortedSet (facts.map (·.demand))
  evidence : candidate.evidenceIds.values = sortedSet (facts.map (·.evidenceId))
  notes : candidate.coverageNotes.values = sortedSet (facts.map (·.coverageNote.1))

theorem merged_fields_iff (candidate : GrowthCandidate) (key : RowKey)
    (status : CandidateCoverageStatus) : candidate.fields = mergedFields key status ↔
      candidate.key = key ∧ candidate.coverageStatus = status := by
  constructor
  · intro same
    have each := CandidateFields.mk.inj same
    obtain ⟨site, kind, operation, dimension, receiver, fieldPath, scope, own⟩ := each
    refine ⟨?_, own⟩
    obtain ⟨_, _, _, _, _, _, _⟩ := key
    exact RowKey.mk.injEq .. ▸ ⟨site, kind, operation, dimension, receiver, fieldPath, scope⟩
  · rintro ⟨rfl, rfl⟩
    rfl

theorem candidate_from_rows_ok (rows : List (Json F)) (candidate : GrowthCandidate) :
    candidateFromRows rows = .ok candidate ↔ (∀ row ∈ rows, ∃ fact, rowFact row = some fact) ∧
        Merged (rows.filterMap rowFact) candidate := by
  rw [candidateFromRows, bind_ok]
  simp only [validated_rows_iff]
  constructor
  · rintro ⟨facts, ⟨valid, rfl⟩, built⟩
    refine ⟨valid, ?_⟩
    split at built
    · cases built
    · rename_i first others shape
      simp only [bind_ok, require_ok, build_ok, merged_fields_iff] at built
      obtain ⟨-, same, ⟨key, status⟩, demands, evidence, notes⟩ := built
      rw [shape]
      refine ⟨List.cons_ne_nil _ _, ?_, status, demands, evidence, notes⟩
      rw [key]
      refine List.forall_mem_cons.mpr ⟨rfl, ?_⟩
      simpa using same
  · rintro ⟨valid, merged⟩
    refine ⟨_, ⟨valid, rfl⟩, ?_⟩
    obtain ⟨filled, keyed, status, demands, evidence, notes⟩ := merged
    generalize rows.filterMap rowFact = facts at filled keyed status demands evidence notes
    cases facts with
    | nil => exact absurd rfl filled
    | cons first others =>
      have own := keyed first (.head _)
      simp only [bind_ok, require_ok, build_ok, merged_fields_iff]
      refine ⟨(), ?_, ⟨own.symm, status⟩, demands, evidence, notes⟩
      rw [List.all_eq_true]
      intro other member
      rw [decide_eq_true_eq, keyed other (.tail _ member), own]

theorem merged_perm (facts rearranged : List GrowthRow) (permuted : rearranged.Perm facts)
    (candidate : GrowthCandidate) (merged : Merged facts candidate) :
    Merged rearranged candidate := by
  have same {β : Type} [LinearOrder β] (valueOf : GrowthRow → β) :
      sortedSet (facts.map valueOf) = sortedSet (rearranged.map valueOf) :=
    sortedSet_congr _ _ fun value => ((permuted.map valueOf).mem_iff).symm
  refine ⟨?_, ?_, ?_, ?_, ?_, ?_⟩
  · rintro rfl
    exact merged.filled permuted.symm.eq_nil
  · exact fun fact member => merged.keyed fact (permuted.mem_iff.mp member)
  · rw [merged.status, mergedStatus, mergedStatus, permuted.any_eq]
  · rw [merged.demands, same]
  · rw [merged.evidence, same]
  · rw [merged.notes, same]

theorem candidate_from_perm (rows rearranged : List (Json F)) (permuted : rearranged.Perm rows)
    (candidate : GrowthCandidate) (built : candidateFromRows rows = .ok candidate) :
    candidateFromRows rearranged = .ok candidate := by
  obtain ⟨valid, merged⟩ := (candidate_from_rows_ok rows candidate).mp built
  refine (candidate_from_rows_ok rearranged candidate).mpr ⟨?_, ?_⟩
  · exact fun row member => valid row (permuted.mem_iff.mp member)
  · exact merged_perm _ _ (permuted.filterMap rowFact) candidate merged

def rowBytes (row : Json F) : List UInt8 := (rowFact row).elim [] fun fact => keyBytes fact.key

def groupRows (rows : List (Json F)) (row : Json F) : List (Json F) :=
  rows.filter fun other => rowBytes other = rowBytes row

variable (rows : List (Json F))

theorem keyed_rows_ok (keyed : List (List UInt8 × Json F)) : rows.mapM keyedRow = .ok keyed ↔
      (∀ row ∈ rows, ∃ fact, rowFact row = some fact) ∧
        keyed = rows.map fun row => (rowBytes row, row) := by
  have one : ∀ (row : Json F) pair, keyedRow row = .ok pair ↔
      (∃ fact, rowFact row = some fact) ∧ pair = (rowBytes row, row) := by
    intro row pair
    rw [keyedRow, bind_ok]
    constructor
    · rintro ⟨fact, own, same⟩
      cases same
      have held := (row_fact_iff row fact).mpr own
      refine ⟨⟨fact, held⟩, ?_⟩
      rw [rowBytes, held]
      rfl
    · rintro ⟨⟨fact, held⟩, rfl⟩
      refine ⟨fact, (row_fact_iff row fact).mp held, ?_⟩
      rw [rowBytes, held]
      rfl
  rw [mapM_ok]
  simp only [one]
  constructor
  · intro all
    induction all with
    | nil => exact ⟨nofun, rfl⟩
    | cons own _ ih => exact ⟨List.forall_mem_cons.mpr ⟨own.1, ih.1⟩, by rw [own.2, ih.2]; rfl⟩
  · rintro ⟨all, rfl⟩
    exact List.forall₂_map_right_iff.mpr (List.forall₂_same.mpr fun row member =>
      ⟨all row member, rfl⟩)

theorem group_rows_iff (bytes : List UInt8) (members : List (List UInt8 × Json F)) :
    (bytes, members) ∈ group Prod.fst (rows.map fun row => (rowBytes row, row)) ↔
      ∃ row ∈ rows, bytes = rowBytes row ∧
        members = (groupRows rows row).map fun row => (rowBytes row, row) := by
  rw [mem_group, List.filter_map]
  constructor
  · rintro ⟨whole, filled⟩
    dsimp only at whole filled
    obtain ⟨pair, member⟩ := List.exists_mem_of_ne_nil _ filled
    rw [whole] at member
    obtain ⟨row, inside, rfl⟩ := List.mem_map.mp member
    obtain ⟨listed, same⟩ := List.mem_filter.mp inside
    have own : rowBytes row = bytes := by simpa using same
    refine ⟨row, listed, own.symm, ?_⟩
    rw [whole, ← own]
    rfl
  · rintro ⟨row, listed, rfl, rfl⟩
    refine ⟨rfl, ?_⟩
    apply List.ne_nil_of_mem
    exact List.mem_map.mpr ⟨row, List.mem_filter.mpr ⟨listed, decide_eq_true rfl⟩, rfl⟩

theorem group_values : (rows.map fun row => (rowBytes row, row)).map Prod.snd = rows := by
  rw [List.map_map]
  exact List.map_id rows

/-- The candidates are those of the groups, one of each. -/
structure Accepted (rows : List (Json F)) (candidates : List GrowthCandidate) : Prop where
  few : rows.length ≤ maxGrowthRows
  valid : ∀ row ∈ rows, ∃ fact, rowFact row = some fact
  every : ∀ row ∈ rows, ∃ candidate ∈ candidates,
    candidateFromRows (groupRows rows row) = .ok candidate
  only : ∀ candidate ∈ candidates, ∃ row ∈ rows,
    candidateFromRows (groupRows rows row) = .ok candidate
  distinct : candidates.Nodup
  sorted : candidates.Pairwise fun left right => identityBytes left ≤ identityBytes right

theorem group_key (row : Json F) (listed : row ∈ rows) (candidate : GrowthCandidate)
    (built : candidateFromRows (groupRows rows row) = .ok candidate) :
    rowBytes row = keyBytes candidate.key ∧ ∃ fact, rowFact row = some fact ∧
      fact.key = candidate.key := by
  obtain ⟨valid, merged⟩ := (candidate_from_rows_ok _ candidate).mp built
  have own : row ∈ groupRows rows row := List.mem_filter.mpr ⟨listed, decide_eq_true rfl⟩
  obtain ⟨fact, held⟩ := valid row own
  have keyed := merged.keyed fact (List.mem_filterMap.mpr ⟨row, own, held⟩)
  refine ⟨?_, fact, held, keyed⟩
  rw [rowBytes, held, ← keyed]
  rfl

theorem candidates_accepted (candidates : List GrowthCandidate)
    (run : growthCandidates rows = .ok candidates) : Accepted rows candidates := by
  simp only [growthCandidates, bind_ok, require_ok, keyed_rows_ok] at run
  obtain ⟨-, few, keyed, ⟨valid, rfl⟩, built, mapped, same⟩ := run
  cases same
  rw [mapM_ok] at mapped
  set groups := (group Prod.fst (rows.map fun row => (rowBytes row, row))).insertionSort
    fun left right => left.1 ≤ right.1
  have listed : ∀ held, held ∈ groups ↔
      held ∈ group Prod.fst (rows.map fun row => (rowBytes row, row)) :=
    fun held => (List.perm_insertionSort _ _).mem_iff
  have members : ∀ candidate, candidate ∈ built.insertionSort (fun left right =>
      identityBytes left ≤ identityBytes right) ↔ candidate ∈ built :=
    fun candidate => (List.perm_insertionSort _ _).mem_iff
  refine ⟨by simpa using few, valid, ?_, ?_, ?_, sorted_by_key identityBytes _⟩
  · intro row member
    have held := (listed (rowBytes row, _)).mpr
      ((group_rows_iff rows _ _).mpr ⟨row, member, rfl, rfl⟩)
    obtain ⟨candidate, inside, own⟩ := related_left mapped _ held
    rw [group_values] at own
    exact ⟨candidate, (members candidate).mpr inside, own⟩
  · intro candidate member
    obtain ⟨held, inside, own⟩ := related_right mapped candidate ((members candidate).mp member)
    obtain ⟨row, present, -, whole⟩ :=
      (group_rows_iff rows held.1 held.2).mp ((listed held).mp inside)
    rw [whole, group_values] at own
    exact ⟨row, present, own⟩
  · apply (List.perm_insertionSort _ _).nodup_iff.mpr
    apply related_nodup _ _ _ mapped
    · exact (List.perm_insertionSort _ _).nodup_iff.mpr (group_distinct _ _)
    · intro one oneIn other otherIn candidate oneRun otherRun
      obtain ⟨row, rowIn, oneKey, oneWhole⟩ :=
        (group_rows_iff rows one.1 one.2).mp ((listed one).mp oneIn)
      obtain ⟨second, secondIn, otherKey, otherWhole⟩ :=
        (group_rows_iff rows other.1 other.2).mp ((listed other).mp otherIn)
      rw [oneWhole, group_values] at oneRun
      rw [otherWhole, group_values] at otherRun
      have same : rowBytes row = rowBytes second :=
        (group_key rows row rowIn candidate oneRun).1.trans
          (group_key rows second secondIn candidate otherRun).1.symm
      apply Prod.ext
      · rw [oneKey, otherKey, same]
      · rw [oneWhole, otherWhole, groupRows, groupRows, same]

theorem candidates_total (few : rows.length ≤ maxGrowthRows)
    (valid : ∀ row ∈ rows, ∃ fact, rowFact row = some fact)
    (every : ∀ row ∈ rows, ∃ candidate, candidateFromRows (groupRows rows row) = .ok candidate) :
    ∃ candidates, growthCandidates rows = .ok candidates := by
  have each : ∀ held ∈ (group Prod.fst (rows.map fun row => (rowBytes row, row))).insertionSort
      (fun left right => left.1 ≤ right.1), ∃ candidate,
      candidateFromRows (held.2.map Prod.snd) = .ok candidate := by
    intro held inside
    obtain ⟨row, present, -, whole⟩ :=
      (group_rows_iff rows held.1 held.2).mp ((List.perm_insertionSort _ _).mem_iff.mp inside)
    rw [whole, group_values]
    exact every row present
  obtain ⟨built, mapped⟩ := mapM_total _ _ each
  refine ⟨built.insertionSort fun left right => identityBytes left ≤ identityBytes right, ?_⟩
  simp only [growthCandidates, bind_ok, require_ok, keyed_rows_ok]
  exact ⟨(), by simpa using few, _, ⟨valid, rfl⟩, built, mapped, rfl⟩

theorem accepted_key (candidates : List GrowthCandidate)
    (accepted : Accepted rows candidates) (left right : GrowthCandidate)
    (leftIn : left ∈ candidates) (rightIn : right ∈ candidates) (same : left.key = right.key) :
    left = right := by
  obtain ⟨one, oneIn, oneRun⟩ := accepted.only left leftIn
  obtain ⟨other, otherIn, otherRun⟩ := accepted.only right rightIn
  have equal : rowBytes one = rowBytes other := by
    rw [(group_key rows one oneIn left oneRun).1, same,
      ← (group_key rows other otherIn right otherRun).1]
  rw [groupRows, equal] at oneRun
  exact Except.ok.inj (oneRun.symm.trans otherRun)

theorem candidates_perm (rows rearranged : List (Json F)) (permuted : rearranged.Perm rows)
    (candidates : List GrowthCandidate) (run : growthCandidates rows = .ok candidates) :
    growthCandidates rearranged = .ok candidates := by
  have accepted := candidates_accepted rows candidates run
  have moved : ∀ row candidate, candidateFromRows (groupRows rows row) = .ok candidate →
      candidateFromRows (groupRows rearranged row) = .ok candidate :=
    fun row candidate => candidate_from_perm _ _ (permuted.filter _) candidate
  have again : ∀ row candidate, candidateFromRows (groupRows rearranged row) = .ok candidate →
      candidateFromRows (groupRows rows row) = .ok candidate :=
    fun row candidate => candidate_from_perm _ _ (permuted.symm.filter _) candidate
  have total : ∃ others, growthCandidates rearranged = .ok others := by
    apply candidates_total
    · exact permuted.length_eq ▸ accepted.few
    · exact fun row member => accepted.valid row (permuted.mem_iff.mp member)
    · intro row member
      obtain ⟨candidate, -, built⟩ := accepted.every row (permuted.mem_iff.mp member)
      exact ⟨candidate, moved row candidate built⟩
  obtain ⟨others, rerun⟩ := total
  have reaccepted := candidates_accepted rearranged others rerun
  have same : others.Perm candidates := by
    apply (List.perm_ext_iff_of_nodup reaccepted.distinct accepted.distinct).mpr
    intro candidate
    constructor
    · intro member
      obtain ⟨row, listed, built⟩ := reaccepted.only candidate member
      obtain ⟨own, inside, first⟩ := accepted.every row (permuted.mem_iff.mp listed)
      have equal := Except.ok.inj ((moved row own first).symm.trans built)
      exact equal ▸ inside
    · intro member
      obtain ⟨row, listed, built⟩ := accepted.only candidate member
      obtain ⟨own, inside, first⟩ := reaccepted.every row (permuted.mem_iff.mpr listed)
      have equal := Except.ok.inj ((again row own first).symm.trans built)
      exact equal ▸ inside
  have equal : others = candidates := by
    apply same.eq_of_pairwise _ reaccepted.sorted accepted.sorted
    intro left right leftIn rightIn below above
    exact accepted_key rows candidates accepted left right (same.mem_iff.mp leftIn) rightIn
      (key_of_identity left right (List.le_antisymm below above))
  rw [rerun, equal]

end

section

variable {F : Type}

/-- Nothing of the rows is lost or added: each row is in the one candidate of its key, and a
candidate is complete where all of its rows are. -/
structure RowsKept (rows : List (Json F)) (candidates : List GrowthCandidate) : Prop where
  distinct : (candidates.map (·.growthId)).Nodup
  placed : ∀ row ∈ rows, ∃ fact, validatedRaw row = .ok fact ∧
    ∃ candidate ∈ candidates, candidate.key = fact.key ∧
      (∀ other ∈ candidates, other.key = fact.key → other = candidate) ∧
      fact.demand ∈ candidate.demandInputs ∧ fact.evidenceId ∈ candidate.evidenceIds.values ∧
      fact.coverageNote.1 ∈ candidate.coverageNotes.values
  demands : ∀ candidate ∈ candidates, ∀ demand ∈ candidate.demandInputs, ∃ row ∈ rows, ∃ fact,
    validatedRaw row = .ok fact ∧ fact.key = candidate.key ∧ fact.demand = demand
  evidence : ∀ candidate ∈ candidates, ∀ identifier ∈ candidate.evidenceIds.values, ∃ row ∈ rows,
    ∃ fact, validatedRaw row = .ok fact ∧ fact.key = candidate.key ∧ fact.evidenceId = identifier
  notes : ∀ candidate ∈ candidates, ∀ note ∈ candidate.coverageNotes.values, ∃ row ∈ rows, ∃ fact,
    validatedRaw row = .ok fact ∧ fact.key = candidate.key ∧ fact.coverageNote.1 = note
  complete : ∀ candidate ∈ candidates, candidate.coverageStatus = .complete ↔
    ∀ row ∈ rows, ∀ fact, validatedRaw row = .ok fact → fact.key = candidate.key →
      fact.coverageStatus = .complete

theorem group_fact (rows : List (Json F)) (row : Json F) (fact : GrowthRow)
    (member : fact ∈ (groupRows rows row).filterMap rowFact) :
    ∃ other ∈ rows, validatedRaw other = .ok fact := by
  obtain ⟨other, inside, held⟩ := List.mem_filterMap.mp member
  exact ⟨other, List.mem_of_mem_filter inside, (row_fact_iff other fact).mp held⟩

theorem group_value {β : Type} [LinearOrder β] (rows : List (Json F)) (row : Json F)
    (candidate : GrowthCandidate)
    (merged : Merged ((groupRows rows row).filterMap rowFact) candidate)
    (valueOf : GrowthRow → β) (value : β)
    (member : value ∈ sortedSet (((groupRows rows row).filterMap rowFact).map valueOf)) :
    ∃ other ∈ rows, ∃ fact, validatedRaw other = .ok fact ∧ fact.key = candidate.key ∧
      valueOf fact = value := by
  obtain ⟨fact, inside, rfl⟩ := List.mem_map.mp ((mem_sortedSet _ _).mp member)
  obtain ⟨other, listed, held⟩ := group_fact rows row fact inside
  exact ⟨other, listed, fact, held, merged.keyed fact inside, rfl⟩

theorem merged_complete_iff (facts : List GrowthRow) :
    mergedStatus facts = .complete ↔ ∀ fact ∈ facts, fact.coverageStatus = .complete := by
  unfold mergedStatus
  split
  · rename_i some_
    obtain ⟨fact, member, other⟩ := List.any_eq_true.mp some_
    refine iff_of_false (fun none_ => by cases none_) fun all => ?_
    exact of_decide_eq_true other (all fact member)
  · rename_i none_
    refine iff_of_true rfl fun fact member => ?_
    by_contra other
    exact none_ (List.any_eq_true.mpr ⟨fact, member, decide_eq_true other⟩)

theorem group_member (rows : List (Json F)) (row other : Json F) (listed : row ∈ rows)
    (otherListed : other ∈ rows) (candidate : GrowthCandidate) (fact : GrowthRow)
    (built : candidateFromRows (groupRows rows row) = .ok candidate)
    (held : validatedRaw other = .ok fact) (keyed : fact.key = candidate.key) :
    fact ∈ (groupRows rows row).filterMap rowFact := by
  have own := (row_fact_iff other fact).mpr held
  apply List.mem_filterMap.mpr
  refine ⟨other, List.mem_filter.mpr ⟨otherListed, decide_eq_true ?_⟩, own⟩
  rw [(group_key rows row listed candidate built).1, rowBytes, own, ← keyed]
  rfl

theorem accepted_kept (rows : List (Json F)) (candidates : List GrowthCandidate)
    (accepted : Accepted rows candidates)
    (apart : ∀ left ∈ candidates, ∀ right ∈ candidates, left.growthId = right.growthId →
      left.semanticIdentity = right.semanticIdentity) : RowsKept rows candidates := by
  have merged : ∀ candidate ∈ candidates, ∃ row ∈ rows,
      candidateFromRows (groupRows rows row) = .ok candidate ∧
        Merged ((groupRows rows row).filterMap rowFact) candidate := by
    intro candidate member
    obtain ⟨row, listed, built⟩ := accepted.only candidate member
    exact ⟨row, listed, built, ((candidate_from_rows_ok _ candidate).mp built).2⟩
  refine ⟨?_, ?_, ?_, ?_, ?_, ?_⟩
  · apply accepted.distinct.map_on
    intro left leftIn right rightIn same
    apply accepted_key rows candidates accepted left right leftIn rightIn
    apply key_of_identity
    rw [identityBytes, apart left leftIn right rightIn same]
    rfl
  · intro row listed
    obtain ⟨candidate, member, built⟩ := accepted.every row listed
    obtain ⟨-, fact, own, keyed⟩ := group_key rows row listed candidate built
    have held := (row_fact_iff row fact).mp own
    have inside := group_member rows row row listed listed candidate fact built held keyed
    have whole := ((candidate_from_rows_ok _ candidate).mp built).2
    refine ⟨fact, held, candidate, member, keyed.symm, ?_, ?_, ?_, ?_⟩
    · intro other otherIn same
      exact accepted_key rows candidates accepted other candidate otherIn member
        (same.trans keyed)
    · rw [whole.demands, mem_sortedSet]
      exact List.mem_map_of_mem inside
    · rw [whole.evidence, mem_sortedSet]
      exact List.mem_map_of_mem inside
    · rw [whole.notes, mem_sortedSet]
      exact List.mem_map.mpr ⟨fact, inside, rfl⟩
  · intro candidate member demand inside
    obtain ⟨row, -, -, whole⟩ := merged candidate member
    rw [whole.demands] at inside
    exact group_value rows row candidate whole (·.demand) demand inside
  · intro candidate member identifier inside
    obtain ⟨row, -, -, whole⟩ := merged candidate member
    rw [whole.evidence] at inside
    exact group_value rows row candidate whole (·.evidenceId) identifier inside
  · intro candidate member note inside
    obtain ⟨row, -, -, whole⟩ := merged candidate member
    rw [whole.notes] at inside
    exact group_value rows row candidate whole (·.coverageNote.1) note inside
  · intro candidate member
    obtain ⟨row, listed, built, whole⟩ := merged candidate member
    rw [whole.status, merged_complete_iff]
    constructor
    · intro all other otherListed fact held keyed
      exact all fact (group_member rows row other listed otherListed candidate fact built held
        keyed)
    · intro all fact inside
      obtain ⟨other, otherListed, held⟩ := group_fact rows row fact inside
      exact all other otherListed fact held (whole.keyed fact inside)

/-- No two candidates of the rows have one digest for different identities. -/
def IdentifiersApart (rows : List (Json F)) : Prop :=
  ∀ candidates, growthCandidates rows = .ok candidates →
    ∀ left ∈ candidates, ∀ right ∈ candidates, left.growthId = right.growthId →
      left.semanticIdentity = right.semanticIdentity

/-- Accepted rows are merged in whatever order they come, and nothing of them is lost. -/
theorem growth_rows_kept (rows : List (Json F)) (output : List PlainJson)
    (run : normalizeGrowthRows rows = .ok output) (apart : IdentifiersApart rows) :
    (∀ rearranged, rearranged.Perm rows → normalizeGrowthRows rearranged = .ok output) ∧
      ∃ candidates, output = candidates.map GrowthCandidate.toDict ∧ RowsKept rows candidates := by
  obtain ⟨candidates, made, same⟩ := bind_ok.mp run
  cases same
  constructor
  · intro rearranged permuted
    rw [normalizeGrowthRows, candidates_perm rows rearranged permuted candidates made]
    rfl
  · exact ⟨candidates, rfl, accepted_kept rows candidates (candidates_accepted rows candidates made)
      (apart candidates made)⟩

end

def sampleRow (demand note : String) : PlainJson :=
  .obj [("site_file", .str "src/Cache.java"), ("site_start_line", .int 12),
    ("growth_kind", .str "container_growth"), ("operation", .str "java.util.Map.put"),
    ("resource_dimension", .str "entries"), ("receiver", .str "this.cache"),
    ("field_path", .str "cache"), ("demand_input_name", .str demand),
    ("demand_input_role", .str "key"), ("escape_scope", .str "instance"),
    ("candidate_evidence", .str "fact:put"), ("coverage_status", .str "complete"),
    ("coverage_note", .str note), ("query_name", .str "growth"),
    ("query_sha256", .str "0"), ("site_location", .str "src/Cache.java:12")]

def sampleRows : List PlainJson := [sampleRow "token" "first", sampleRow "key" "second"]

theorem sample_rows_merged : ∃ candidate, growthCandidates sampleRows = .ok [candidate] := by
  have one : (growthCandidates sampleRows).toOption.map List.length = some 1 := by decide +kernel
  cases run : growthCandidates sampleRows with
  | error raised =>
    rw [run] at one
    cases one
  | ok candidates =>
    rw [run] at one
    obtain ⟨candidate, rfl⟩ := List.length_eq_one_iff.mp (Option.some_inj.mp one)
    exact ⟨candidate, rfl⟩

theorem growth_rows_kept_sample : ∃ candidates, RowsKept sampleRows candidates := by
  obtain ⟨candidate, made⟩ := sample_rows_merged
  have run : normalizeGrowthRows sampleRows = .ok [candidate.toDict] := by
    rw [normalizeGrowthRows, made]
    rfl
  have apart : IdentifiersApart sampleRows := by
    intro candidates again left leftIn right rightIn _
    rw [made] at again
    cases again
    rw [List.mem_singleton.mp leftIn, List.mem_singleton.mp rightIn]
  obtain ⟨candidates, -, kept⟩ := (growth_rows_kept sampleRows _ run apart).2
  exact ⟨candidates, kept⟩

end DosWeb.Growth
