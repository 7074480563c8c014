import DosWeb.Flows.Models
import DosWeb.Library.Markers

/-!
The relevance of a growth candidate, decided before any contract is asked for, and when a
candidate with an attacker driver is rejected.
-/

namespace DosWeb.Growth

open Library Library.OrderedSet Library.Markers Identifiers
open Entries (EntryFact pathParts)
open Flows (identifierTokens)

inductive RelevanceStatus where
  | contractEligible
  | dosRelevantPartial
  | rejected
  | unresolved
  deriving DecidableEq

/-- A decision, with what its constructor demands of the reasons. -/
structure RelevanceDecision where
  status : RelevanceStatus
  amplificationClass : AmplificationClass
  reasonCodes : List String
  required : reasonCodes ≠ []
  bounded : reasonCodes.length ≤ 16
  ordered : reasonCodes.Pairwise (· < ·)
  short : ∀ reason ∈ reasonCodes, reason ≠ "" ∧ (Text.utf8 reason.toList).length ≤ 128

inductive RelevanceReason where
  | linkFanoutExceeded
  | testOrBenchmarkOnly
  | serverSizedAllocation
  | allocationSizeOriginPartial
  | serverSideMaterialization
  | materializationOriginPartial
  | fixedKeyRetention
  | fixedKeyPartial
  | finiteKeyspace
  | finiteKeyspacePartial
  | canonicalEntryUnproven
  | requestMaterialization
  | parserOrReadAllPartial
  | materializationOriginUnknown
  | attackerSizedAllocation
  | attackerSizedAllocationPartial
  | allocationSizeOriginUnknown
  | attackerCardinalityRequestLocal
  | staticEvidencePartial
  | requestLocalCardinalityUnproven
  | sessionCardinalityUnproven
  | highCardinalityRetention
  | fieldRetentionPartial
  | requestLocalOrUnknownRetention
  | attackerLoopSubmission
  | queueCapacityOrMultiplicityPartial
  deriving DecidableEq

def RelevanceReason.text : RelevanceReason → String
  | .linkFanoutExceeded => "RELEVANCE_LINK_FANOUT_EXCEEDED"
  | .testOrBenchmarkOnly => "RELEVANCE_TEST_OR_BENCHMARK_ONLY"
  | .serverSizedAllocation => "RELEVANCE_SERVER_SIZED_ALLOCATION"
  | .allocationSizeOriginPartial => "RELEVANCE_ALLOCATION_SIZE_ORIGIN_PARTIAL"
  | .serverSideMaterialization => "RELEVANCE_SERVER_SIDE_MATERIALIZATION"
  | .materializationOriginPartial => "RELEVANCE_MATERIALIZATION_ORIGIN_PARTIAL"
  | .fixedKeyRetention => "RELEVANCE_FIXED_KEY_RETENTION"
  | .fixedKeyPartial => "RELEVANCE_FIXED_KEY_PARTIAL"
  | .finiteKeyspace => "RELEVANCE_FINITE_KEYSPACE"
  | .finiteKeyspacePartial => "RELEVANCE_FINITE_KEYSPACE_PARTIAL"
  | .canonicalEntryUnproven => "RELEVANCE_CANONICAL_ENTRY_UNPROVEN"
  | .requestMaterialization => "RELEVANCE_REQUEST_MATERIALIZATION"
  | .parserOrReadAllPartial => "RELEVANCE_PARSER_OR_READ_ALL_PARTIAL"
  | .materializationOriginUnknown => "RELEVANCE_MATERIALIZATION_ORIGIN_UNKNOWN"
  | .attackerSizedAllocation => "RELEVANCE_ATTACKER_SIZED_ALLOCATION"
  | .attackerSizedAllocationPartial => "RELEVANCE_ATTACKER_SIZED_ALLOCATION_PARTIAL"
  | .allocationSizeOriginUnknown => "RELEVANCE_ALLOCATION_SIZE_ORIGIN_UNKNOWN"
  | .attackerCardinalityRequestLocal => "RELEVANCE_ATTACKER_CARDINALITY_REQUEST_LOCAL"
  | .staticEvidencePartial => "RELEVANCE_STATIC_EVIDENCE_PARTIAL"
  | .requestLocalCardinalityUnproven => "RELEVANCE_REQUEST_LOCAL_CARDINALITY_UNPROVEN"
  | .sessionCardinalityUnproven => "RELEVANCE_SESSION_CARDINALITY_UNPROVEN"
  | .highCardinalityRetention => "RELEVANCE_HIGH_CARDINALITY_RETENTION"
  | .fieldRetentionPartial => "RELEVANCE_FIELD_RETENTION_PARTIAL"
  | .requestLocalOrUnknownRetention => "RELEVANCE_REQUEST_LOCAL_OR_UNKNOWN_RETENTION"
  | .attackerLoopSubmission => "RELEVANCE_ATTACKER_LOOP_SUBMISSION"
  | .queueCapacityOrMultiplicityPartial => "RELEVANCE_QUEUE_CAPACITY_OR_MULTIPLICITY_PARTIAL"

variable (reason : RelevanceReason)

theorem RelevanceReason.text_short :
    reason.text ≠ "" ∧ (Text.utf8 reason.text.toList).length ≤ 128 := by
  cases reason <;> decide +kernel

def reasonTexts (reason : RelevanceReason) (more : List RelevanceReason) : List String :=
  sortedSet ((reason :: more).map RelevanceReason.text)

theorem reason_texts_short (more : List RelevanceReason)
    (text : String) (member : text ∈ reasonTexts reason more) :
    text ≠ "" ∧ (Text.utf8 text.toList).length ≤ 128 := by
  rw [reasonTexts, mem_sortedSet] at member
  obtain ⟨found, _, same⟩ := List.mem_map.mp member
  rw [← same]
  exact found.text_short

theorem reason_texts_bounded (more : List RelevanceReason)
    (few : more.length ≤ 15) : (reasonTexts reason more).length ≤ 16 := by
  calc
    (reasonTexts reason more).length =
        ((reason :: more).map RelevanceReason.text).dedup.length := by
      rw [reasonTexts, sortedSet, List.length_insertionSort]
    _ ≤ ((reason :: more).map RelevanceReason.text).length := (List.dedup_sublist _).length_le
    _ ≤ 16 := by
      rw [List.length_map, List.length_cons]
      omega

def decision (status : RelevanceStatus) (amplification : AmplificationClass)
    (reason : RelevanceReason) (more : List RelevanceReason)
    (few : more.length ≤ 15) : RelevanceDecision where
  status
  amplificationClass := amplification
  reasonCodes := reasonTexts reason more
  required := by simp [reasonTexts]
  bounded := reason_texts_bounded reason more few
  ordered := sortedSet_increasing _
  short := reason_texts_short reason more

def decided (status : RelevanceStatus) (amplification : AmplificationClass)
    (reason : RelevanceReason) : RelevanceDecision :=
  decision status amplification reason [] (Nat.zero_le 15)

/-- A name in lower case, where the names it is compared with have ASCII letters only: the
Kelvin sign is the one other character whose lower case is such a letter. -/
def lowerName (name : List Char) : List Char :=
  name.map fun c => if c = Char.ofNat 0x212a then 'k' else c.toLower

def testOrBenchmarkPath (path : String) : Bool :=
  let parts := (pathParts path.toList).map fun part => String.ofList (lowerName part)
  ["test", "tests", "benchmark", "benchmarks"].contains (parts.headD "") ||
    (decide (2 ≤ parts.length) && [["src", "test"], ["src", "jmh"], ["src", "benchmark"]].contains
      (parts.take 2))

def canonicalLink (entry : Option EntryFact) (candidate : GrowthCandidate)
    (links : List CandidateEntryLink) : Option CandidateEntryLink :=
  match entry, links with
  | some entry, [link] =>
    if link.entryId ≠ entry.entryId ∨ link.growthId ≠ candidate.growthId then none
    else some link
  | _, _ => none

def demandMatchesEntry (entry : EntryFact) (candidate : GrowthCandidate) : Bool :=
  let attackerNames := entry.attackerInputs.map fun input => input.name.1
  candidate.demandInputs.any fun demand =>
    attackerNames.contains demand.name.1 ||
      decide ((((identifierTokens [] demand.name.1.toList).map String.ofList).dedup.filter
        fun token => attackerNames.contains token).length = 1)

def partialOrEligible (candidate : GrowthCandidate) (amplification : AmplificationClass)
    (reason : RelevanceReason) : RelevanceDecision :=
  if candidate.coverageStatus = .complete then decided .contractEligible amplification reason
  else decision .dosRelevantPartial amplification reason [.staticEvidencePartial] (by decide)

/-- The notes of the coverage, a line each; no marker depends on the order of the lines. -/
def noteText (candidate : GrowthCandidate) : List Char :=
  ['\n'].intercalate (candidate.coverageNotes.values.map String.toList)

def noted (candidate : GrowthCandidate) (marker : String) : Bool :=
  decide (marker.toList <:+: noteText candidate)

def serverControlledAllocationNotes : List String :=
  ["direct_allocation:server_metadata_size", "direct_allocation:server_controlled_fixed_size"]

def requestLocalCardinalityProvenNotes : List String :=
  ["request_local_container_write:key_driver_unclassified:" ++
      "attacker_controlled_loop_cardinality_proven",
    "request_local_container_write:attacker_value_driver:" ++
      "attacker_controlled_loop_cardinality_proven",
    "request_local_container_write:value_driver_unclassified:" ++
      "attacker_controlled_loop_cardinality_proven"]

section

variable (entry : EntryFact) (candidate : GrowthCandidate) (associationPartial : Bool)

def materializationRelevance : RelevanceDecision :=
  let requestMaterialization :=
    ["spring_request_body_materialization", "spring_request_body_string_materialization",
      "netty_full_http_request_string_materialization",
      "servlet_request_string_builder_materialization"].contains candidate.operation.1 ||
    ["recognized_mqtt_payload_api", "recognized_armeria_request_aggregation",
      "request_stream_origin_proven",
      "recognized_request_wrapper_string_materialization"].any (noted candidate)
  let parserOrReadAll :=
    ["stream_origin_unclassified", "recognized_read_all_materialization_api",
      "recognized_byte_array_output_stream_materialization",
      "parser_materialization_partial"].any (noted candidate)
  if requestMaterialization && !associationPartial then
    partialOrEligible candidate .largeSingleRequest .requestMaterialization
  else if requestMaterialization || parserOrReadAll then
    decided .dosRelevantPartial .largeSingleRequest .parserOrReadAllPartial
  else decided .unresolved .unknown .materializationOriginUnknown

def allocationRelevance : RelevanceDecision :=
  let requestSized := noted candidate "request_derived_size" || demandMatchesEntry entry candidate
  if requestSized && !associationPartial then
    partialOrEligible candidate .largeSingleRequest .attackerSizedAllocation
  else if requestSized then
    decided .dosRelevantPartial .largeSingleRequest .attackerSizedAllocationPartial
  else decided .unresolved .unknown .allocationSizeOriginUnknown

def requestLocalRelevance : RelevanceDecision :=
  let attackerCardinality := candidate.coverageNotes.values.any fun note =>
    requestLocalCardinalityProvenNotes.contains note
  if attackerCardinality && !associationPartial then
    partialOrEligible candidate .superlinear .attackerCardinalityRequestLocal
  else if attackerCardinality then
    decision .dosRelevantPartial .superlinear .attackerCardinalityRequestLocal
      [.staticEvidencePartial] (by decide)
  else decided .unresolved .unknown .requestLocalCardinalityUnproven

def retentionRelevance : RelevanceDecision :=
  let fieldBacked := (candidate.escapeScope = .instance_ || candidate.escapeScope = .global) &&
    (noted candidate "field" || Text.endsWith candidate.receiver.1 ("." ++ candidate.fieldPath.1))
  let attackerDriver := noted candidate "attacker_key_driver" ||
    noted candidate "attacker_value_driver" || demandMatchesEntry entry candidate
  if fieldBacked && attackerDriver && !associationPartial then
    partialOrEligible candidate
      (if noted candidate "attacker_controlled_loop_multiplicity_proven" then .superlinear
        else .highCardinalityRetention) .highCardinalityRetention
  else if fieldBacked then
    decided .dosRelevantPartial .highCardinalityRetention .fieldRetentionPartial
  else decided .unresolved .lowAmplification .requestLocalOrUnknownRetention

def containerRelevance : RelevanceDecision :=
  if candidate.escapeScope = .request then requestLocalRelevance candidate associationPartial
  else if candidate.escapeScope = .session ∧ noted candidate "fresh_session" = true then
    decided .unresolved .lowAmplification .sessionCardinalityUnproven
  else retentionRelevance entry candidate associationPartial

def asyncRelevance : RelevanceDecision :=
  if noted candidate "attacker_controlled_loop_multiplicity_proven" && !associationPartial then
    partialOrEligible candidate .queueInstability .attackerLoopSubmission
  else decided .dosRelevantPartial .queueInstability .queueCapacityOrMultiplicityPartial

def familyRelevance : RelevanceDecision :=
  match candidate.kind with
  | .inputMaterialization => materializationRelevance candidate associationPartial
  | .directAllocation => allocationRelevance entry candidate associationPartial
  | .containerGrowth => containerRelevance entry candidate associationPartial
  | .asyncWorkGrowth => asyncRelevance candidate associationPartial

end

/-- A rejection where the candidate's coverage is complete, and what else is decided. -/
def rejectedIfComplete (candidate : GrowthCandidate) (reason : RelevanceReason)
    (otherwise : AmplificationClass × RelevanceReason) : RelevanceDecision :=
  if candidate.coverageStatus = .complete then decided .rejected .lowAmplification reason
  else decided .unresolved otherwise.1 otherwise.2

def evaluateCandidateRelevance (entry : Option EntryFact) (candidate : GrowthCandidate)
    (links : List CandidateEntryLink) : RelevanceDecision :=
  if 64 < links.length then decided .unresolved .unknown .linkFanoutExceeded
  else if testOrBenchmarkPath candidate.site.file.1 then
    decided .rejected .lowAmplification .testOrBenchmarkOnly
  else if candidate.kind = .directAllocation ∧ candidate.coverageNotes.values ≠ [] ∧
      (candidate.coverageNotes.values.all fun note =>
        serverControlledAllocationNotes.contains note) = true then
    rejectedIfComplete candidate .serverSizedAllocation (.unknown, .allocationSizeOriginPartial)
  else if noted candidate "server_side_file_materialization" then
    rejectedIfComplete candidate .serverSideMaterialization
      (.unknown, .materializationOriginPartial)
  else if noted candidate "fixed_key" then
    rejectedIfComplete candidate .fixedKeyRetention (.lowAmplification, .fixedKeyPartial)
  else if ["finite_enum_keyspace", "finite_class_keyspace", "finite_keyspace_complete"].any
      (noted candidate) then
    rejectedIfComplete candidate .finiteKeyspace (.lowAmplification, .finiteKeyspacePartial)
  else
    match entry, canonicalLink entry candidate links with
    | some entry, some link => familyRelevance entry candidate (link.status ≠ .complete)
    | _, _ => decided .unresolved .unknown .canonicalEntryUnproven

/-- Some note of the candidate has one of the markers. -/
def Marked (candidate : GrowthCandidate) (markers : List String) : Prop :=
  ∃ marker ∈ markers, ∃ note ∈ candidate.coverageNotes.values, marker.toList <:+: note.toList

/-- The markers of a fact that an attacker drives the growth. -/
def driverMarkers : List String :=
  ["attacker_key_driver", "request_derived_size", "request_stream_origin_proven",
    "attacker_controlled_loop_cardinality_proven", "attacker_controlled_loop_multiplicity_proven"]

/-- The markers of a fact that speaks against a growth. -/
def benignMarkers : List String :=
  ["server_side_file_materialization", "fixed_key", "finite_enum_keyspace",
    "finite_class_keyspace", "finite_keyspace_complete"]

section

variable (candidate : GrowthCandidate)

theorem noted_iff (marker : String) (filled : marker.toList ≠ [])
    (plain : '\n' ∉ marker.toList) : noted candidate marker = true ↔
      ∃ note ∈ candidate.coverageNotes.values, marker.toList <:+: note.toList := by
  rw [noted, decide_eq_true_iff, noteText, infix_intercalate_iff '\n' _ filled plain]
  constructor
  · intro inside
    obtain ⟨line, member, held⟩ := inside
    obtain ⟨note, known, same⟩ := List.mem_map.mp member
    exact ⟨note, known, by rw [same]; exact held⟩
  · intro inside
    obtain ⟨note, known, held⟩ := inside
    exact ⟨note.toList, List.mem_map_of_mem known, held⟩

theorem benign_noted_iff :
    (∃ marker ∈ benignMarkers, noted candidate marker = true) ↔ Marked candidate benignMarkers := by
  have plain : ∀ marker ∈ benignMarkers, marker.toList ≠ [] ∧ '\n' ∉ marker.toList := by
    decide +kernel
  constructor
  · intro held
    obtain ⟨marker, member, inside⟩ := held
    exact ⟨marker, member,
      (noted_iff candidate marker (plain marker member).1 (plain marker member).2).mp inside⟩
  · intro held
    obtain ⟨marker, member, inside⟩ := held
    exact ⟨marker, member,
      (noted_iff candidate marker (plain marker member).1 (plain marker member).2).mpr inside⟩

theorem server_notes_undriven : ∀ note ∈ serverControlledAllocationNotes,
    ∀ marker ∈ driverMarkers, ¬ marker.toList <:+: note.toList := by
  decide +kernel

theorem partial_or_eligible_kept (amplification : AmplificationClass) (reason : RelevanceReason) :
    (partialOrEligible candidate amplification reason).status ≠ .rejected := by
  unfold partialOrEligible
  split
  · exact RelevanceStatus.noConfusion
  · exact RelevanceStatus.noConfusion

theorem family_relevance_kept (entry : EntryFact) (candidate : GrowthCandidate)
    (associationPartial : Bool) :
    (familyRelevance entry candidate associationPartial).status ≠ .rejected := by
  have eligible := partial_or_eligible_kept candidate
  unfold familyRelevance materializationRelevance allocationRelevance containerRelevance
    requestLocalRelevance retentionRelevance asyncRelevance
  cases candidate.kind with
  | inputMaterialization | directAllocation =>
    simp only
    split
    · exact eligible _ _
    · split <;> exact RelevanceStatus.noConfusion
  | containerGrowth =>
    simp only
    split
    · split
      · exact eligible _ _
      · split <;> exact RelevanceStatus.noConfusion
    · split
      · exact RelevanceStatus.noConfusion
      · split
        · exact eligible _ _
        · split <;> exact RelevanceStatus.noConfusion
  | asyncWorkGrowth =>
    simp only
    split
    · exact eligible _ _
    · exact RelevanceStatus.noConfusion

theorem rejected_if_complete_iff (reason : RelevanceReason)
    (otherwise : AmplificationClass × RelevanceReason) :
    (rejectedIfComplete candidate reason otherwise).status ≠ .rejected ↔
      candidate.coverageStatus ≠ .complete := by
  unfold rejectedIfComplete
  split
  · rename_i complete
    simp [decided, decision, complete]
  · rename_i complete
    simp [decided, decision, complete]

end

/-- A driven candidate outside of tests stays exactly where its links are too many, its coverage
is not complete or none of its notes speaks against it. -/
theorem driven_kept_iff (entry : Option EntryFact) (candidate : GrowthCandidate)
    (links : List CandidateEntryLink) (outside : testOrBenchmarkPath candidate.site.file.1 = false)
    (driven : Marked candidate driverMarkers) :
    (evaluateCandidateRelevance entry candidate links).status ≠ .rejected ↔
      64 < links.length ∨ candidate.coverageStatus ≠ .complete ∨
        ¬ Marked candidate benignMarkers := by
  have mixed : ¬ (candidate.kind = .directAllocation ∧ candidate.coverageNotes.values ≠ [] ∧
      (candidate.coverageNotes.values.all fun note =>
        serverControlledAllocationNotes.contains note) = true) := by
    intro server
    obtain ⟨marker, known, note, member, inside⟩ := driven
    have listed := List.contains_iff_mem.mp (List.all_eq_true.mp server.2.2 note member)
    exact server_notes_undriven note listed marker known inside
  have benign := benign_noted_iff candidate
  simp only [benignMarkers, List.mem_cons, List.not_mem_nil, or_false, exists_eq_or_imp,
    exists_eq_left] at benign
  rw [← benignMarkers] at benign
  unfold evaluateCandidateRelevance
  by_cases many : 64 < links.length
  · rw [if_pos many]
    simp [many, decided, decision]
  rw [if_neg many]
  rw [if_neg (by rw [outside]; exact Bool.false_ne_true), if_neg mixed]
  split
  · rename_i held
    rw [rejected_if_complete_iff, ← benign]
    simp [many, held]
  rename_i first
  split
  · rename_i held
    rw [rejected_if_complete_iff, ← benign]
    simp [many, held]
  rename_i second
  split
  · rename_i held
    rw [rejected_if_complete_iff, ← benign]
    simp only [List.any_cons, List.any_nil, Bool.or_false, Bool.or_eq_true] at held
    simp [many, held]
  rename_i third
  simp only [List.any_cons, List.any_nil, Bool.or_false, Bool.or_eq_true] at third
  have unmarked : ¬ Marked candidate benignMarkers := by
    rw [← benign]
    simp [first, second, third]
  constructor
  · intro _
    exact Or.inr (Or.inr unmarked)
  · intro _
    split
    · exact family_relevance_kept _ _ _
    · exact RelevanceStatus.noConfusion

/-- The sample candidate of two rows of one site, of which one has a fixed key. -/
def mergedCandidate : GrowthCandidate :=
  { sampleCandidate with
    growthId := stableIdentifier "growth" _
    coverageNotes := ⟨["persistent_field_container_write:attacker_key_driver",
      "persistent_field_container_write:fixed_key"], by decide, by decide⟩
    notesRequired := by decide
    notesBounded := by decide
    notesValid := by decide +kernel
    idCanonical := rfl }

theorem merged_outside : testOrBenchmarkPath mergedCandidate.site.file.1 = false := by
  decide +kernel

theorem merged_driven : Marked mergedCandidate driverMarkers := ⟨"attacker_key_driver", .head _,
    "persistent_field_container_write:attacker_key_driver", .head _, by decide +kernel⟩

theorem merged_kept_iff : (evaluateCandidateRelevance none mergedCandidate []).status ≠ .rejected ↔
      64 < 0 ∨ mergedCandidate.coverageStatus ≠ .complete ∨
        ¬ Marked mergedCandidate benignMarkers :=
  driven_kept_iff none mergedCandidate [] merged_outside merged_driven

theorem merged_rejected : ¬ ∀ entry candidate links,
    testOrBenchmarkPath candidate.site.file.1 = false → Marked candidate driverMarkers →
      (evaluateCandidateRelevance entry candidate links).status ≠ .rejected := by
  intro claimed
  exact claimed none mergedCandidate [] merged_outside merged_driven (by decide +kernel)

end DosWeb.Growth
