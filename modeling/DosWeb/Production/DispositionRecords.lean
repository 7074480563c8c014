import DosWeb.Production.CodecLaws
import DosWeb.Production.Dispositions

/-!
The record of a disposition, checked twice: by the constructor that takes its fields, and by the
schema of the artifact.
-/

namespace DosWeb.Production

open Library Library.JsonValue Library.JsonRecord Library.OrderedSet Identifiers

variable {F : Type}

/-- A record whose fields have the declared types; the lists are of any items. -/
structure DispositionRecord (F : Type) where
  dispositionId : String
  growthId : String
  status : DispositionStatus
  canonicalEntryId : String
  localGrowthStatus : LocalGrowthStatus
  associationStatus : AssociationStatus
  linkIds : List (Json F)
  evidenceIds : List (Json F)
  negativeProofIds : List (Json F)
  reasonCodes : List (Json F)

def DispositionRecord.parts (record : DispositionRecord F)
    (linkIds evidenceIds negativeProofIds reasonCodes : TextSet) : DispositionParts :=
  { record with linkIds, evidenceIds, negativeProofIds, reasonCodes }

def DispositionRecord.leads (record : DispositionRecord F) : Prop :=
  (record.parts .empty .empty .empty .empty).leads

instance (record : DispositionRecord F) : Decidable record.leads :=
  inferInstanceAs (Decidable (DispositionParts.leads _))

/-- The record of a disposition that says this, whether or not the constructor would take it. -/
def DispositionParts.record (parts : DispositionParts) : DispositionRecord F :=
  { parts with
    dispositionId := stableIdentifier "disposition" parts.identity
    linkIds := parts.linkIds.values.map .str
    evidenceIds := parts.evidenceIds.values.map .str
    negativeProofIds := parts.negativeProofIds.values.map .str
    reasonCodes := parts.reasonCodes.values.map .str }

def CandidateDisposition.toRecord (disposition : CandidateDisposition) : DispositionRecord F :=
  { disposition.toDispositionParts.record with dispositionId := disposition.dispositionId }

def strings (values : List (Json F)) (name : String) (allowEmpty : Bool) : Checked TextSet :=
  match values.mapM plainText with
  | none => .error (completenessInvalid (name ++ " is invalid."))
  | some texts => do
      let filled ← ensure ((allowEmpty = true ∨ texts ≠ []) ∧ "" ∉ texts)
        (completenessInvalid (name ++ " is invalid."))
      let same ← ensure (sortedSet texts = texts)
        (completenessInvalid (name ++ " must be deterministic."))
      return ⟨texts, (sortedSet_eq_self_iff texts).mp same.down, filled.down.2⟩

def CandidateDisposition.ofRecord (record : DispositionRecord F) :
    Checked CandidateDisposition := do
  let _ ← ensure record.leads (completenessInvalid "Candidate disposition is invalid.")
  let linkIds ← strings record.linkIds "link_ids" true
  let evidenceIds ← strings record.evidenceIds "evidence_ids" false
  let negativeProofIds ← strings record.negativeProofIds "negative_proof_ids" true
  let reasonCodes ← strings record.reasonCodes "reason_codes" false
  let disposition ← CandidateDisposition.create
    (record.parts linkIds evidenceIds negativeProofIds reasonCodes)
  let _ ← ensure (record.dispositionId = disposition.dispositionId)
    (completenessInvalid "Candidate disposition id is invalid.")
  return disposition

theorem strings_iff (values : List (Json F)) (name : String) (allowEmpty : Bool) (texts : TextSet) :
    strings values name allowEmpty = .ok texts ↔
      values = texts.values.map .str ∧ (allowEmpty = true ∨ texts.values ≠ []) := by
  obtain ⟨own, ordered, filled⟩ := texts
  unfold strings
  split
  · rename_i none_
    refine iff_of_false (by simp) ?_
    rintro ⟨same, -⟩
    rw [(plain_texts_iff values own).mpr same] at none_
    cases none_
  · rename_i read found
    rw [plain_texts_iff] at found
    subst found
    simp only [bind_ok, ensure_ok, pure_ok, TextSet.mk.injEq]
    constructor
    · rintro ⟨_, ⟨kept, _⟩, _, _, rfl⟩
      exact ⟨rfl, kept⟩
    · rintro ⟨same, kept⟩
      obtain rfl := List.map_injective_iff.mpr (fun _ _ => Json.str.inj) same
      exact ⟨⟨kept, filled⟩, ⟨kept, filled⟩, ⟨sortedSet_of_increasing _ ordered⟩,
        sortedSet_of_increasing _ ordered, rfl⟩

theorem disposition_parts (parts : DispositionParts) (disposition : CandidateDisposition)
    (created : CandidateDisposition.create parts = .ok disposition) :
    disposition.toDispositionParts = parts := by
  simp only [CandidateDisposition.create, bind_ok, pure_ok] at created
  obtain ⟨_, _, _, _, _, _, _, _, _, _, _, _, _, _, _, _, rfl⟩ := created
  rfl

theorem disposition_own (disposition : CandidateDisposition) :
    CandidateDisposition.create disposition.toDispositionParts = .ok disposition := by
  obtain ⟨made, created, same⟩ := disposition_ok disposition.toDispositionParts disposition.leads
    disposition.filled disposition.proofsNamed disposition.eligibleLinked disposition.formalComplete
    disposition.gapIncomplete disposition.rejectionProven disposition.othersUnproven
  have ids : made.dispositionId = disposition.dispositionId := by
    rw [made.idCanonical, disposition.idCanonical, same]
  rw [created]
  cases made
  cases disposition
  cases same
  cases ids
  rfl

/-- A record is taken exactly where it is the record of the disposition that it gives. -/
theorem of_record_iff (record : DispositionRecord F) (disposition : CandidateDisposition) :
    CandidateDisposition.ofRecord record = .ok disposition ↔ disposition.toRecord = record := by
  simp only [CandidateDisposition.ofRecord, bind_ok, ensure_ok, strings_iff, pure_ok]
  constructor
  · intro taken
    obtain ⟨_, _, linkIds, ⟨links, _⟩, evidenceIds, ⟨evidence, _⟩, proofIds, ⟨proofs, _⟩, codes,
      ⟨reasons, _⟩, _, created, _, id, rfl⟩ := taken
    have parts := disposition_parts _ _ created
    rw [CandidateDisposition.toRecord, parts, ← id]
    cases record
    subst links evidence proofs reasons
    rfl
  · intro same
    subst same
    have leads : disposition.toRecord.leads (F := F) := disposition.leads
    have filled := disposition.filled
    refine ⟨⟨leads⟩, leads, disposition.linkIds, ⟨rfl, Or.inl trivial⟩, disposition.evidenceIds,
      ⟨rfl, Or.inr filled.1⟩, disposition.negativeProofIds, ⟨rfl, Or.inl trivial⟩,
      disposition.reasonCodes, ⟨rfl, Or.inr filled.2⟩, disposition, ?_, ⟨rfl⟩, rfl, rfl⟩
    exact disposition_own disposition

section

def recordInvalid (artifactName : String) (line : Nat) (message : String) (field : Option String) :
    Raised := .analyzer ⟨"ARTIFACT_INVALID_RECORD", message, [("artifact_name", .str artifactName),
    ("line", .int line)] ++ (field.toList.map fun name => ("field", .str name))⟩

/-- Filled texts that are sorted and distinct already. -/
def deterministicTexts (values : List (Json F)) : Option TextSet :=
  match values.mapM plainText with
  | none => none
  | some texts =>
    if valid : "" ∉ texts ∧ sortedSet texts = texts then
      some ⟨texts, (sortedSet_eq_self_iff texts).mp valid.2, valid.1⟩
    else none

variable (artifactName : String) (line : Nat)

def validateCandidateDisposition (record : DispositionRecord F) : Checked Unit :=
  let invalid := recordInvalid artifactName line
  let unordered := invalid "Candidate disposition collections must be deterministic strings." none
  match deterministicTexts record.linkIds, deterministicTexts record.evidenceIds,
    deterministicTexts record.negativeProofIds, deterministicTexts record.reasonCodes with
  | some linkIds, some evidenceIds, some negativeProofIds, some reasonCodes => do
      let parts := record.parts linkIds evidenceIds negativeProofIds reasonCodes
      require (decide (parts.filled ∧ parts.proofsNamed)) unordered
      require (!parts.status.eligible || (parts.linkIds.values.length = 1 &&
          Text.startsWith parts.canonicalEntryId "entry:"))
        (invalid "Eligible candidate requires one canonical Entry link." (some "link_ids"))
      require (decide parts.formalComplete)
        (invalid "Formal candidate evidence is incomplete." (some "status"))
      require (decide parts.gapIncomplete)
        (invalid "Gap candidate evidence is invalid." (some "status"))
      require (decide parts.rejectionProven) (invalid
        "Rejected candidate must cite deterministic negative proof records." (some "status"))
      require (decide parts.othersUnproven) (invalid
        "Non-rejected candidate cannot carry negative proof records." (some "status"))
      require (record.dispositionId = stableIdentifier "disposition" parts.identity)
        (invalid "Candidate disposition identifier is malformed." (some "disposition_id"))
  | _, _, _, _ => .error unordered

theorem deterministic_texts_iff (values : List (Json F)) (texts : TextSet) :
    deterministicTexts values = some texts ↔ values = texts.values.map .str := by
  have same := sortedSet_of_increasing texts.values texts.ordered
  have filled := texts.filled
  rw [deterministicTexts, ← plain_texts_iff]
  split
  · simp_all
  · rename_i read found
    rw [found, Option.some_inj]
    constructor
    · intro kept
      split_ifs at kept
      cases kept
      rfl
    · rintro rfl
      rw [dif_pos ⟨filled, same⟩]

theorem parts_validated (parts : DispositionParts) (filled : parts.filled)
    (proofsNamed : parts.proofsNamed)
    (linked : (!parts.status.eligible || (parts.linkIds.values.length = 1 &&
      Text.startsWith parts.canonicalEntryId "entry:")) = true)
    (formalComplete : parts.formalComplete) (gapIncomplete : parts.gapIncomplete)
    (rejectionProven : parts.rejectionProven) (othersUnproven : parts.othersUnproven) :
    validateCandidateDisposition artifactName line (parts.record : DispositionRecord F) =
      .ok () := by
  have own (texts : TextSet) : deterministicTexts (texts.values.map (Json.str : String → Json F)) =
      some texts := (deterministic_texts_iff _ texts).mpr rfl
  unfold validateCandidateDisposition
  simp only [DispositionParts.record, own, bind_ok, require_ok]
  exact ⟨(), decide_eq_true ⟨filled, proofsNamed⟩, (), linked, (), decide_eq_true formalComplete,
    (), decide_eq_true gapIncomplete, (), decide_eq_true rejectionProven,
    (), decide_eq_true othersUnproven, decide_eq_true rfl⟩

theorem record_validated (disposition : CandidateDisposition) :
    validateCandidateDisposition artifactName line (disposition.toRecord : DispositionRecord F) =
      .ok () := by
  obtain ⟨parts, _, leads, filled, named, linked, formal, gap, rejection, others, rfl⟩ := disposition
  refine parts_validated artifactName line parts filled named ?_ formal gap rejection others
  cases eligible : parts.status.eligible with
  | false => rfl
  | true =>
    have own := linked eligible
    rw [decide_eq_true own.1, leads.2 own.2]
    rfl

theorem validated_record (record : DispositionRecord F)
    (accepted : validateCandidateDisposition artifactName line record = .ok ())
    (leads : record.leads) : ∃ disposition : CandidateDisposition, disposition.toRecord = record := by
  obtain ⟨own, growth, status, entry, locally, association, _, _, _, _⟩ := record
  unfold validateCandidateDisposition at accepted
  split at accepted
  · rename_i links evidence proofs reasons ownLinks ownEvidence ownProofs ownReasons
    rw [deterministic_texts_iff] at ownLinks ownEvidence ownProofs ownReasons
    simp only [bind_ok, require_ok, decide_eq_true_eq, Bool.or_eq_true, Bool.and_eq_true,
      Bool.not_eq_true'] at accepted
    obtain ⟨_, ⟨filled, named⟩, _, linked, _, formal, _, gap, _, rejection, _, others, id⟩ := accepted
    refine ⟨⟨⟨growth, status, entry, locally, association, links, evidence, proofs, reasons⟩, own,
      leads, filled, named, fun eligible => ?_, formal, gap, rejection, others, id⟩, ?_⟩
    · obtain ⟨one, entry_⟩ := linked.resolve_left fun other => Bool.noConfusion (other.symm.trans eligible)
      refine ⟨one, fun none_ => ?_⟩
      have lead : Text.startsWith "" "entry:" = true := (show entry = "" from none_) ▸ entry_
      exact absurd lead (by decide)
    · simp only at ownLinks ownEvidence ownProofs ownReasons
      rw [ownLinks, ownEvidence, ownProofs, ownReasons]
      rfl
  · cases accepted

/-- The schema takes what the constructor makes; what it takes besides has another lead. -/
theorem disposition_records_agree :
    (∀ (parts : DispositionParts) (disposition : CandidateDisposition),
      CandidateDisposition.create parts = .ok disposition →
      validateCandidateDisposition artifactName line (disposition.toRecord : DispositionRecord F) =
        .ok ()) ∧
    ∀ record : DispositionRecord F, validateCandidateDisposition artifactName line record = .ok () →
      ((∃ disposition, CandidateDisposition.ofRecord record = .ok disposition ∧
        disposition.toRecord = record) ↔ record.leads) := by
  refine ⟨fun _ disposition _ => record_validated artifactName line disposition, ?_⟩
  intro record accepted
  constructor
  · rintro ⟨disposition, -, rfl⟩
    exact disposition.leads
  · intro leads
    obtain ⟨disposition, same⟩ := validated_record artifactName line record accepted leads
    exact ⟨disposition, (of_record_iff record disposition).mpr same, same⟩

end

def routeParts : DispositionParts :=
  ⟨"growth:g", .inventoryUnresolved, "GET /items", .complete, .missing, .empty,
    .single "fact:e" (by decide), .empty, .single "ENTRY_MISSING" (by decide)⟩

/-- A route stands in the place of an entry. -/
def routeRecord : DispositionRecord Empty := routeParts.record

theorem route_record_refused : ¬ ∀ record : DispositionRecord Empty,
      validateCandidateDisposition "candidate_dispositions" 1 record = .ok () →
        ∃ disposition, CandidateDisposition.ofRecord record = .ok disposition ∧
          disposition.toRecord = record := by
  intro agree
  have accepted : validateCandidateDisposition "candidate_dispositions" 1 routeRecord = .ok () :=
    parts_validated _ _ routeParts (by decide) (by decide) (by decide) (by decide) (by decide)
      (by decide) (by decide)
  obtain ⟨disposition, -, same⟩ := agree routeRecord accepted
  have leads := disposition.leads.2
  have entry : disposition.canonicalEntryId = "GET /items" :=
    congrArg DispositionRecord.canonicalEntryId same
  rw [entry] at leads
  exact absurd (leads (by decide)) (by decide)

end DosWeb.Production
