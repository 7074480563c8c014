import DosWeb.Flows.Codec
import DosWeb.Production.Codecs

/-!
The records of verified growth and verified flows: what a stored verification holds, how it is
written, and which records are read back.
-/

namespace DosWeb.Production

open Library.JsonValue Library.JsonRecord Library.JsonText Library.OrderedSet
open Flows (FlowProof FlowStatus Identified identifiedOf)
open Growth (GrowthCandidate VerificationStatus verificationInvalid)

/-- A check of a stored verification, with the values that its record has. -/
structure StoredCheck (F : Type) where
  name : Json F
  passed : Json F
  reasonCode : Json F

def checkFields : List String := ["name", "passed", "reason_code"]

section

variable {F : Type}

def StoredCheck.members (check : StoredCheck F) : Members F :=
  [("name", check.name), ("passed", check.passed), ("reason_code", check.reasonCode)]

/-- The truth of a value; a floating-point number is false where its text is that of a zero. -/
def truth [FloatText F] : Json F → Bool
  | .null => false
  | .bool value => value
  | .int value => value ≠ 0
  | .float value =>
    FloatText.render value ≠ "0.0".toList && FloatText.render value ≠ "-0.0".toList
  | .str text => text ≠ ""
  | .arr items => !items.isEmpty
  | .obj members => !members.isEmpty

def tupleOf : Json F → Decoded (List (Json F))
  | .arr items => .ok items
  | .str text => .ok (text.toList.map fun c => .str (String.singleton c))
  | .obj members => .ok (members.map fun member => .str member.1)
  | _ => .error .typeError

variable [FloatText F]

def verificationStatuses : List VerificationStatus := [.verified, .rejected, .unresolved]

def growthFields : List String :=
  ["verified_growth_id", "growth_id", "slice_id", "status", "reason_codes", "checks"]

/-- What the constructor demands of a status with its reasons and checks. -/
structure GrowthShape (status : VerificationStatus) (reasonCodes : List String)
    (checks : List (StoredCheck F)) : Prop where
  verifiedUnreasoned : status = .verified → reasonCodes = []
  verifiedChecked : status = .verified → checks ≠ []
  verifiedPassed : status = .verified → ∀ check ∈ checks, truth check.passed = true
  failureReasoned : status ≠ .verified → reasonCodes ≠ []

instance (status : VerificationStatus) (reasonCodes : List String)
    (checks : List (StoredCheck F)) : Decidable (GrowthShape status reasonCodes checks) :=
  decidable_of_iff ((status = .verified → reasonCodes = []) ∧ (status = .verified → checks ≠ []) ∧
      (status = .verified → ∀ check ∈ checks, truth check.passed = true) ∧
      (status ≠ .verified → reasonCodes ≠ []))
    ⟨fun all => ⟨all.1, all.2.1, all.2.2.1, all.2.2.2⟩,
      fun shape => ⟨shape.verifiedUnreasoned, shape.verifiedChecked, shape.verifiedPassed,
        shape.failureReasoned⟩⟩

variable (F) in
structure StoredGrowth where
  verifiedGrowthId : Identified "verified_growth:"
  growthId : Identified "growth:"
  sliceId : Identified "slice:"
  status : VerificationStatus
  reasonCodes : List String
  checks : List (StoredCheck F)
  candidate : Option GrowthCandidate
  reasonsFilled : "" ∉ reasonCodes
  shape : GrowthShape status reasonCodes checks
  candidateMatches : ∀ growth ∈ candidate, growth.growthId = growthId.1

/-- What the identifier of a growth result is made of. -/
def StoredGrowth.identity (result : StoredGrowth F) : Members F :=
  [("growth_id", .str result.growthId.1), ("slice_id", .str result.sliceId.1),
    ("status", .str result.status.text), ("reason_codes", .arr (result.reasonCodes.map .str)),
    ("checks", .arr (result.checks.map fun check => .obj check.members))]

def StoredGrowth.members (result : StoredGrowth F) : Members F :=
  ("verified_growth_id", .str result.verifiedGrowthId.1) :: result.identity

def growthMalformed : Raised := verificationInvalid "Growth verification result is malformed."

/-- The growth result of the values, with the checks of its constructor. -/
def storedGrowth (verifiedGrowthId growthId sliceId status : Json F) (reasons : List (Json F))
    (checks : List (StoredCheck F)) (candidate : Option GrowthCandidate) :
    Decoded (StoredGrowth F) := do
  let verifiedGrowthId ← lifted (identifiedOf "verified_growth:" growthMalformed verifiedGrowthId)
  let growthId ← lifted (identifiedOf "growth:" growthMalformed growthId)
  let sliceId ← lifted (identifiedOf "slice:" growthMalformed sliceId)
  let status ← decodeMember verificationStatuses VerificationStatus.text (.raised growthMalformed)
    status
  match reasons.mapM plainText with
  | none => .error (.raised growthMalformed)
  | some reasonCodes =>
    if reasonsFilled : "" ∉ reasonCodes then
      if shape : GrowthShape status reasonCodes checks then
        if candidateMatches : ∀ growth ∈ candidate, growth.growthId = growthId.1 then
          .ok { verifiedGrowthId, growthId, sliceId, status, reasonCodes, checks, candidate
                reasonsFilled, shape, candidateMatches }
        else .error (.raised (verificationInvalid "Growth semantic context is incompatible."))
      else if status = .verified then
        .error (.raised (verificationInvalid
          "Verified growth requires successful checks and no failure reasons."))
      else .error (.raised (verificationInvalid "Non-verified growth requires a reason."))
    else .error (.raised growthMalformed)

/-- The check of an item that has the fields of one; other items are passed over. -/
def checkOf (item : Json F) : Option (StoredCheck F) :=
  match objectOf item with
  | some record =>
    if fieldSet record = sortedSet checkFields then
      some ⟨get record "name", get record "passed", get record "reason_code"⟩
    else none
  | none => none

def growthRecordMalformed : Fault :=
  .raised (verificationInvalid "Growth verification record is malformed.")

def readGrowth (value : Json F) (candidate : Option GrowthCandidate) : Decoded (StoredGrowth F) :=
  match objectOf value with
  | none => .error growthRecordMalformed
  | some record => do
      insist (fieldSet record = sortedSet growthFields) growthRecordMalformed
      match get record "reason_codes", get record "checks" with
      | .arr reasons, .arr checks =>
        let result ← storedGrowth (get record "verified_growth_id") (get record "growth_id")
          (get record "slice_id") (get record "status") reasons (checks.filterMap checkOf)
          candidate
        let expected ← identifierOf "verified_growth" result.identity
        insist (result.verifiedGrowthId.1 = expected)
          (.raised (verificationInvalid "Growth verification identifier is not canonical."))
        return result
      | _, _ => .error growthRecordMalformed

end

variable {F : Type} [FloatText F]

def flowStatuses : List FlowStatus := [.verified, .partialProof, .unresolved]

def flowFields : List String :=
  ["verified_flow_id", "path_id", "entry_id", "growth_id", "status", "reason_codes", "checks",
    "evidence_ids", "unresolved_facts", "proof"]

/-- What the constructor demands of a status with its reasons and checks. -/
structure StoredFlowShape (status : FlowStatus) (reasonCodes : List (Json F))
    (checks : List (StoredCheck F)) : Prop where
  checked : checks ≠ []
  verifiedUnreasoned : status = .verified → reasonCodes = []
  verifiedPassed : status = .verified → ∀ check ∈ checks, truth check.passed = true
  failureReasoned : status ≠ .verified → reasonCodes ≠ []

instance (status : FlowStatus) (reasonCodes : List (Json F)) (checks : List (StoredCheck F)) :
    Decidable (StoredFlowShape status reasonCodes checks) :=
  decidable_of_iff (checks ≠ [] ∧ (status = .verified → reasonCodes = []) ∧
      (status = .verified → ∀ check ∈ checks, truth check.passed = true) ∧
      (status ≠ .verified → reasonCodes ≠ []))
    ⟨fun all => ⟨all.1, all.2.1, all.2.2.1, all.2.2.2⟩,
      fun shape => ⟨shape.checked, shape.verifiedUnreasoned, shape.verifiedPassed,
        shape.failureReasoned⟩⟩

def StoredCheck.row (check : StoredCheck F) : Json F :=
  .arr [check.name, check.passed, check.reasonCode]

/-- What the identifier of a verified flow is made of. -/
def storedFlowIdentity (proof : FlowProof) (status : FlowStatus) (reasonCodes : List (Json F))
    (checks : List (StoredCheck F)) (evidenceIds unresolvedFacts : List (Json F)) : Members F :=
  [("path_id", .str proof.pathId), ("entry_id", .str proof.entryId),
    ("growth_id", .str proof.growthId), ("status", .str status.text),
    ("reason_codes", .arr reasonCodes), ("checks", .arr (checks.map StoredCheck.row)),
    ("evidence_ids", .arr evidenceIds), ("unresolved_facts", .arr unresolvedFacts)]

variable (F) in
/-- A verified flow as its constructor admits it; its path, entry and growth are the proof's. -/
structure StoredFlow where
  verifiedFlowId : String
  status : FlowStatus
  reasonCodes : List (Json F)
  checks : List (StoredCheck F)
  evidenceIds : List (Json F)
  unresolvedFacts : List (Json F)
  proof : FlowProof
  shape : StoredFlowShape status reasonCodes checks
  idCanonical : identifierOf "verified_flow" (storedFlowIdentity proof status reasonCodes checks
    evidenceIds unresolvedFacts) = .ok verifiedFlowId

def StoredFlow.members (flow : StoredFlow F) : Members F :=
  [("verified_flow_id", .str flow.verifiedFlowId), ("path_id", .str flow.proof.pathId),
    ("entry_id", .str flow.proof.entryId), ("growth_id", .str flow.proof.growthId),
    ("status", .str flow.status.text), ("reason_codes", .arr flow.reasonCodes),
    ("checks", .arr (flow.checks.map fun check => .obj check.members)),
    ("evidence_ids", .arr flow.evidenceIds), ("unresolved_facts", .arr flow.unresolvedFacts),
    ("proof", .obj flow.proof.members)]

def storedFlowMalformed (message : String) : Fault := .raised (Flows.flowMalformed message)

/-- The verified flow of the values, with the checks of its constructor. -/
def storedFlow (verifiedFlowId pathId entryId growthId status : Json F)
    (reasonCodes : List (Json F)) (checks : List (StoredCheck F))
    (evidenceIds unresolvedFacts : List (Json F)) (proof : FlowProof) : Decoded (StoredFlow F) := do
  insist (isText proof.pathId pathId && isText proof.entryId entryId &&
    isText proof.growthId growthId) (storedFlowMalformed "Verified flow result is malformed.")
  let status ← decodeMember flowStatuses FlowStatus.text
    (storedFlowMalformed "Verified flow result is malformed.") status
  if shape : StoredFlowShape status reasonCodes checks then
    match idCanonical : identifierOf "verified_flow" (storedFlowIdentity proof status reasonCodes
        checks evidenceIds unresolvedFacts) with
    | .ok identifier =>
      if isText identifier verifiedFlowId then
        .ok { verifiedFlowId := identifier
              status, reasonCodes, checks, evidenceIds, unresolvedFacts, proof, shape, idCanonical }
      else .error (storedFlowMalformed "Verified flow identifier is malformed.")
    | .error fault => .error fault
  else .error (storedFlowMalformed "Verified flow result is malformed.")

def itemMember (item : Json F) (key : String) : Decoded (Json F) :=
  match objectOf item with
  | some record => member record key
  | none => .error .typeError

def flowCheckOf (item : Json F) : Decoded (StoredCheck F) := do
  let name ← itemMember item "name"
  let passed ← itemMember item "passed"
  let reasonCode ← itemMember item "reason_code"
  return ⟨name, passed, reasonCode⟩

def flowChecks : List (Json F) → Decoded (List (StoredCheck F))
  | [] => .ok []
  | item :: items => do
      let check ← flowCheckOf item
      let checks ← flowChecks items
      return check :: checks

/-- The proof of a record, which has to be the known one of its path if proofs are known. -/
def readProof (proofs : Option (List (String × FlowProof))) (value : Json F) : Decoded FlowProof :=
  match objectOf value with
  | none => .error (storedFlowMalformed "Verified flow proof is malformed.")
  | some record => do
      let proof ← lifted (FlowProof.fromDict record)
      insist (∀ known ∈ proofs, known.lookup proof.pathId = some proof)
        (storedFlowMalformed "Verified flow proof is malformed.")
      return proof

/-- The flow of one record of a file, as the loader reads it. -/
def readFlow (proofs : Option (List (String × FlowProof))) (value : Json F) :
    Decoded (StoredFlow F) :=
  match objectOf value with
  | none => .error (storedFlowMalformed "Verified flow record is malformed.")
  | some record => do
      insist (fieldSet record = sortedSet flowFields)
        (storedFlowMalformed "Verified flow record is malformed.")
      let proof ← readProof proofs (get record "proof")
      match get record "checks" with
      | .arr items =>
        let reasonCodes ← tupleOf (get record "reason_codes")
        let checks ← flowChecks items
        let evidenceIds ← tupleOf (get record "evidence_ids")
        let unresolvedFacts ← tupleOf (get record "unresolved_facts")
        storedFlow (get record "verified_flow_id") (get record "path_id") (get record "entry_id")
          (get record "growth_id") (get record "status") reasonCodes checks evidenceIds
          unresolvedFacts proof
      | _ => .error (storedFlowMalformed "Verified flow checks are malformed.")

end DosWeb.Production
