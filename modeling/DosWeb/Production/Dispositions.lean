import DosWeb.Production.Conclude
import Mathlib.Data.Fintype.Basic

/-!
Links of candidates to entries and the dispositions of candidates, as their constructors build
them.
-/

namespace DosWeb.Production

open Library Library.OrderedSet Identifiers
open Growth (CandidateEntryLink LinkStatus linkIdentity)

inductive LocalGrowthStatus where
  | complete
  | partialGrowth
  | rejected
  | unknown
  deriving DecidableEq

inductive AssociationStatus where
  | complete
  | partialLink
  | missing
  | ambiguous
  deriving DecidableEq

def LocalGrowthStatus.text : LocalGrowthStatus → String
  | .complete => "complete"
  | .partialGrowth => "partial"
  | .rejected => "rejected"
  | .unknown => "unknown"

def AssociationStatus.text : AssociationStatus → String
  | .complete => "complete"
  | .partialLink => "partial"
  | .missing => "missing"
  | .ambiguous => "ambiguous"

def DispositionStatus.text : DispositionStatus → String
  | .formalEligible => "formal_eligible"
  | .gapEligible => "gap_eligible"
  | .rejected => "rejected"
  | .inventoryUnresolved => "inventory_unresolved"

def completenessInvalid (message : String) : Raised :=
  .analyzer ⟨"ANALYSIS_CANDIDATE_COMPLETENESS_INVALID", message, []⟩

def ensure (condition : Prop) [Decidable condition] (raised : Raised) : Checked (PLift condition) :=
  if held : condition then .ok ⟨held⟩ else .error raised

@[simp] theorem ensure_ok (condition : Prop) [Decidable condition] (raised : Raised)
    (held : PLift condition) : ensure condition raised = .ok held ↔ condition := by
  unfold ensure
  split
  · rename_i known
    exact iff_of_true rfl known
  · rename_i unknown
    exact iff_of_false (by intro made; cases made) unknown

/-- The distinct texts in order; an empty text is refused. -/
def textsOf (values : List String) (name : String) : Checked TextSet :=
  match TextSet.collect values with
  | some texts => .ok texts
  | none => .error (completenessInvalid (name ++ " is invalid."))

def filledTextsOf (values : List String) (name : String) :
    Checked { texts : TextSet // texts.values ≠ [] } := do
  let texts ← textsOf values name
  let filled ← ensure (texts.values ≠ []) (completenessInvalid (name ++ " is invalid."))
  return ⟨texts, filled.down⟩

variable (values : List String)

theorem texts_of_total (name : String) (filled : "" ∉ values) :
    ∃ texts, textsOf values name = .ok texts ∧ texts.values = sortedSet values := by
  obtain ⟨texts, collected, same⟩ := TextSet.collect_of_filled values filled
  exact ⟨texts, by rw [textsOf, collected], same⟩

theorem texts_of_ok (name : String) (texts : TextSet)
    (made : textsOf values name = .ok texts) : "" ∉ values ∧ texts.values = sortedSet values := by
  unfold textsOf at made
  split at made
  · rename_i collected
    cases made
    exact ⟨TextSet.collect_filled values texts collected,
      TextSet.collect_values values texts collected⟩
  · cases made

theorem filled_texts_of_total (name : String) (filled : "" ∉ values) (some_ : values ≠ []) :
    ∃ texts, filledTextsOf values name = .ok texts ∧ texts.1.values = sortedSet values := by
  obtain ⟨texts, made, same⟩ := texts_of_total values name filled
  have kept : texts.values ≠ [] := by
    rw [same, Ne, sortedSet_eq_nil]
    exact some_
  refine ⟨⟨texts, kept⟩, ?_, same⟩
  exact bind_ok.mpr ⟨texts, made, bind_ok.mpr ⟨⟨kept⟩, by simpa using kept, rfl⟩⟩

theorem filled_texts_of_ok (name : String) (texts : { texts : TextSet // texts.values ≠ [] })
    (made : filledTextsOf values name = .ok texts) :
    "" ∉ values ∧ texts.1.values = sortedSet values := by
  obtain ⟨own, first, rest⟩ := bind_ok.mp made
  obtain ⟨_, _, same⟩ := bind_ok.mp rest
  cases same
  exact texts_of_ok values name own first

def CandidateEntryLink.create (growthId entryId : String) (status : LinkStatus)
    (evidenceIds reasonCodes : List String) : Checked CandidateEntryLink := do
  let leads ← ensure (Text.startsWith growthId "growth:" = true ∧
    Text.startsWith entryId "entry:" = true) (completenessInvalid "Candidate entry link is invalid.")
  let evidence ← filledTextsOf evidenceIds "evidence_ids"
  let reasons ← filledTextsOf reasonCodes "reason_codes"
  return {
    linkId := stableIdentifier "candidate_link"
      (linkIdentity growthId entryId status evidence.1.values reasons.1.values)
    growthId, entryId, status
    evidenceIds := evidence.1
    reasonCodes := reasons.1
    growthIdStarts := leads.down.1
    entryIdStarts := leads.down.2
    evidenceRequired := evidence.2
    reasonsRequired := reasons.2
    idCanonical := rfl }

/-- What a disposition says; its identifier follows from it. -/
structure DispositionParts where
  growthId : String
  status : DispositionStatus
  canonicalEntryId : String
  localGrowthStatus : LocalGrowthStatus
  associationStatus : AssociationStatus
  linkIds : TextSet
  evidenceIds : TextSet
  negativeProofIds : TextSet
  reasonCodes : TextSet

def DispositionParts.identity (parts : DispositionParts) : List (String × PlainJson) :=
  [("growth_id", .str parts.growthId), ("status", .str parts.status.text),
    ("canonical_entry_id", .str parts.canonicalEntryId),
    ("local_growth_status", .str parts.localGrowthStatus.text),
    ("association_status", .str parts.associationStatus.text),
    ("link_ids", .arr (parts.linkIds.values.map .str)),
    ("evidence_ids", .arr (parts.evidenceIds.values.map .str)),
    ("negative_proof_ids", .arr (parts.negativeProofIds.values.map .str)),
    ("reason_codes", .arr (parts.reasonCodes.values.map .str))]

def DispositionStatus.eligible (status : DispositionStatus) : Bool :=
  status = .formalEligible || status = .gapEligible

def negativeProofId (identifier : String) : Bool := Text.startsWith identifier "negative_proof:"

def citedNegativeProofs (parts : DispositionParts) : List String :=
  parts.evidenceIds.values.filter negativeProofId

def DispositionParts.leads (parts : DispositionParts) : Prop :=
  Text.startsWith parts.growthId "growth:" = true ∧
    (parts.canonicalEntryId ≠ "" → Text.startsWith parts.canonicalEntryId "entry:" = true)

def DispositionParts.filled (parts : DispositionParts) : Prop :=
  parts.evidenceIds.values ≠ [] ∧ parts.reasonCodes.values ≠ []

def DispositionParts.proofsNamed (parts : DispositionParts) : Prop :=
  parts.negativeProofIds.values.all negativeProofId = true

def DispositionParts.eligibleLinked (parts : DispositionParts) : Prop :=
  parts.status.eligible = true → parts.linkIds.values.length = 1 ∧ parts.canonicalEntryId ≠ ""

def DispositionParts.formalComplete (parts : DispositionParts) : Prop :=
  parts.status = .formalEligible → parts.localGrowthStatus = .complete ∧
    parts.associationStatus = .complete ∧ parts.negativeProofIds.values = []

def DispositionParts.gapIncomplete (parts : DispositionParts) : Prop :=
  parts.status = .gapEligible →
    (parts.localGrowthStatus = .complete ∨ parts.localGrowthStatus = .partialGrowth) ∧
    (parts.associationStatus = .complete ∨ parts.associationStatus = .partialLink) ∧
    ¬ (parts.localGrowthStatus = .complete ∧ parts.associationStatus = .complete) ∧
    parts.negativeProofIds.values = []

def DispositionParts.rejectionProven (parts : DispositionParts) : Prop :=
  parts.status = .rejected → parts.negativeProofIds.values ≠ [] ∧
    parts.negativeProofIds.values = citedNegativeProofs parts

def DispositionParts.othersUnproven (parts : DispositionParts) : Prop :=
  parts.status ≠ .rejected → parts.negativeProofIds.values = [] ∧ citedNegativeProofs parts = []

instance (parts : DispositionParts) : Decidable parts.leads := inferInstanceAs (Decidable (_ ∧ _))
instance (parts : DispositionParts) : Decidable parts.filled := inferInstanceAs (Decidable (_ ∧ _))
instance (parts : DispositionParts) : Decidable parts.proofsNamed :=
  inferInstanceAs (Decidable (_ = true))
instance (parts : DispositionParts) : Decidable parts.eligibleLinked :=
  inferInstanceAs (Decidable (_ → _))
instance (parts : DispositionParts) : Decidable parts.formalComplete :=
  inferInstanceAs (Decidable (_ → _))
instance (parts : DispositionParts) : Decidable parts.gapIncomplete :=
  inferInstanceAs (Decidable (_ → _))
instance (parts : DispositionParts) : Decidable parts.rejectionProven :=
  inferInstanceAs (Decidable (_ → _))
instance (parts : DispositionParts) : Decidable parts.othersUnproven :=
  inferInstanceAs (Decidable (_ → _))

/-- A disposition that passes the constructor's checks. -/
structure CandidateDisposition extends DispositionParts where
  dispositionId : String
  leads : toDispositionParts.leads
  filled : toDispositionParts.filled
  proofsNamed : toDispositionParts.proofsNamed
  eligibleLinked : toDispositionParts.eligibleLinked
  formalComplete : toDispositionParts.formalComplete
  gapIncomplete : toDispositionParts.gapIncomplete
  rejectionProven : toDispositionParts.rejectionProven
  othersUnproven : toDispositionParts.othersUnproven
  idCanonical : dispositionId = stableIdentifier "disposition" toDispositionParts.identity

def CandidateDisposition.create (parts : DispositionParts) : Checked CandidateDisposition := do
  let leads ← ensure parts.leads (completenessInvalid "Candidate disposition is invalid.")
  let filled ← ensure parts.filled (completenessInvalid (
    (if parts.evidenceIds.values = [] then "evidence_ids" else "reason_codes") ++ " is invalid."))
  let proofsNamed ← ensure parts.proofsNamed
    (completenessInvalid "Candidate negative proof reference is invalid.")
  let eligibleLinked ← ensure parts.eligibleLinked
    (completenessInvalid "Eligible candidate needs one canonical Entry association.")
  let formalComplete ← ensure parts.formalComplete
    (completenessInvalid "Formal candidate evidence is incomplete.")
  let gapIncomplete ← ensure parts.gapIncomplete
    (completenessInvalid "Gap candidate evidence is invalid.")
  let rejectionProven ← ensure parts.rejectionProven (completenessInvalid
    "Rejected candidate must cite deterministic negative proof records.")
  let othersUnproven ← ensure parts.othersUnproven
    (completenessInvalid "Non-rejected candidate cannot carry negative proof records.")
  return {
    parts with
    dispositionId := stableIdentifier "disposition" parts.identity
    leads := leads.down
    filled := filled.down
    proofsNamed := proofsNamed.down
    eligibleLinked := eligibleLinked.down
    formalComplete := formalComplete.down
    gapIncomplete := gapIncomplete.down
    rejectionProven := rejectionProven.down
    othersUnproven := othersUnproven.down
    idCanonical := rfl }

theorem disposition_ok (parts : DispositionParts) (leads : parts.leads) (filled : parts.filled)
    (proofsNamed : parts.proofsNamed) (eligibleLinked : parts.eligibleLinked)
    (formalComplete : parts.formalComplete) (gapIncomplete : parts.gapIncomplete)
    (rejectionProven : parts.rejectionProven) (othersUnproven : parts.othersUnproven) :
    ∃ disposition, CandidateDisposition.create parts = .ok disposition ∧
      disposition.toDispositionParts = parts := by
  refine ⟨⟨parts, _, leads, filled, proofsNamed, eligibleLinked, formalComplete, gapIncomplete,
    rejectionProven, othersUnproven, rfl⟩, ?_, rfl⟩
  unfold CandidateDisposition.create
  simp only [bind_ok, ensure_ok]
  exact ⟨⟨leads⟩, leads, ⟨filled⟩, filled, ⟨proofsNamed⟩, proofsNamed, ⟨eligibleLinked⟩,
    eligibleLinked, ⟨formalComplete⟩, formalComplete, ⟨gapIncomplete⟩, gapIncomplete,
    ⟨rejectionProven⟩, rejectionProven, ⟨othersUnproven⟩, othersUnproven, rfl⟩

end DosWeb.Production
