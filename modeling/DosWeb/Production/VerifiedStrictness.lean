import DosWeb.Conclude.Soundness
import DosWeb.Production.StrictCodecs
import DosWeb.Production.VerifiedCodecs

/-!
A stored verification comes back from its record, and an accepted record is written back as it
was where nothing of it was passed over.
-/

namespace DosWeb.Production

open Library Library.JsonValue Library.JsonRecord Library.JsonText Library.JsonRoundTrip
open Library.OrderedSet Identifiers
open Flows (FlowProof FlowStatus FlowCheck VerifiedFlow ProofRead FullRecord
  verifiedFlowIdentity)
open Growth (BoundedSlice GrowthCandidate GrowthContract StaticFactIndex VerificationCheck
  VerificationStatus VerifiedGrowthResult optionalText verifyGrowthContract)

/-- An object with the fields of a check and no others. -/
def IsCheck {F : Type} (item : Json F) : Prop :=
  ∃ record, item = .obj record ∧ fieldSet record = sortedSet checkFields

section

variable {F : Type}

theorem check_members_distinct (check : StoredCheck F) : (check.members.map Prod.fst).Nodup := by
  change checkFields.Nodup
  decide

theorem check_exact_iff (record : Members F) (check : StoredCheck F)
    (distinct : DistinctKeys (.obj record)) (name : get record "name" = check.name)
    (passed : get record "passed" = check.passed)
    (reason : get record "reason_code" = check.reasonCode) :
    JsonValue.normalize (.obj record) = JsonValue.normalize (.obj check.members) ↔
      IsCheck (.obj record) := by
  rw [normalize_obj]
  constructor
  · intro same
    exact ⟨record, rfl, fields_of_normalize _ _ same⟩
  · intro own
    obtain ⟨other, same, fields⟩ := own
    cases same
    apply (normalize_eq_fields record check.members checkFields distinct.1
      (check_members_distinct check) fields rfl).mpr
    intro key inside
    simp only [checkFields, List.mem_cons, List.not_mem_nil, or_false] at inside
    rcases inside with rfl | rfl | rfl
    · rw [name]
      rfl
    · rw [passed]
      rfl
    · rw [reason]
      rfl

theorem check_of_some (item : Json F) (check : StoredCheck F) :
    checkOf item = some check ↔ ∃ record, item = .obj record ∧
      fieldSet record = sortedSet checkFields ∧ get record "name" = check.name ∧
      get record "passed" = check.passed ∧ get record "reason_code" = check.reasonCode := by
  unfold checkOf
  cases item with
  | obj record =>
    simp only [objectOf]
    constructor
    · intro read
      split at read
      · rename_i fields
        cases read
        exact ⟨record, rfl, fields, rfl, rfl, rfl⟩
      · cases read
    · intro known
      obtain ⟨own, same, fields, name, passed, reason⟩ := known
      cases same
      rw [if_pos fields, name, passed, reason]
  | _ => simp [objectOf]

theorem check_of_is (item : Json F) : (checkOf item).isSome = true ↔ IsCheck item := by
  rw [Option.isSome_iff_exists]
  constructor
  · intro known
    obtain ⟨check, read⟩ := known
    obtain ⟨record, same, fields, _⟩ := (check_of_some item check).mp read
    exact ⟨record, same, fields⟩
  · intro known
    obtain ⟨record, same, fields⟩ := known
    exact ⟨⟨get record "name", get record "passed", get record "reason_code"⟩,
      (check_of_some item _).mpr ⟨record, same, fields, rfl, rfl, rfl⟩⟩

theorem filtered_exact_iff (items : List (Json F)) (distinct : ∀ item ∈ items, DistinctKeys item) :
    items.map JsonValue.normalize =
        ((items.filterMap checkOf).map fun check => Json.obj check.members).map
          JsonValue.normalize ↔
      ∀ item ∈ items, IsCheck item := by
  constructor
  · intro same
    have lengths := congrArg List.length same
    rw [List.length_map, List.length_map, List.length_map] at lengths
    intro item inside
    exact (check_of_is item).mp (List.filterMap_length_eq_length.mp lengths.symm item inside)
  · intro each
    induction items with
    | nil => rfl
    | cons item items ih =>
      obtain ⟨own, others⟩ := List.forall_mem_cons.mp each
      obtain ⟨apart, rest⟩ := List.forall_mem_cons.mp distinct
      obtain ⟨check, read⟩ := Option.isSome_iff_exists.mp ((check_of_is item).mpr own)
      obtain ⟨record, rfl, _, name, passed, reason⟩ := (check_of_some item check).mp read
      rw [List.filterMap_cons_some read, List.map_cons, List.map_cons, List.map_cons,
        ih rest others, (check_exact_iff record check apart name passed reason).mpr own]

theorem flow_check_ok (item : Json F) (check : StoredCheck F) :
    flowCheckOf item = .ok check ↔ ∃ record, item = .obj record ∧
      present record "name" = some check.name ∧ present record "passed" = some check.passed ∧
      present record "reason_code" = some check.reasonCode := by
  unfold flowCheckOf
  simp only [bind_ok]
  cases item with
  | obj record =>
    simp only [itemMember, objectOf, member_ok]
    constructor
    · intro read
      obtain ⟨name, nameHeld, passed, passedHeld, reason, reasonHeld, same⟩ := read
      cases same
      exact ⟨record, rfl, nameHeld, passedHeld, reasonHeld⟩
    · intro known
      obtain ⟨own, same, nameHeld, passedHeld, reasonHeld⟩ := known
      cases same
      exact ⟨_, nameHeld, _, passedHeld, _, reasonHeld, rfl⟩
  | _ => simp [itemMember, objectOf]

theorem flow_checks_ok (items : List (Json F)) (checks : List (StoredCheck F)) :
    flowChecks items = .ok checks ↔
      List.Forall₂ (fun item check => flowCheckOf item = .ok check) items checks := by
  induction items generalizing checks with
  | nil =>
    constructor
    · intro read
      cases read
      exact .nil
    · intro all
      cases all
      rfl
  | cons item items ih =>
    rw [flowChecks, bind_ok]
    constructor
    · intro read
      obtain ⟨check, first, rest⟩ := read
      obtain ⟨others, next, same⟩ := bind_ok.mp rest
      cases same
      exact .cons first ((ih others).mp next)
    · intro all
      cases all with
      | cons first rest =>
        refine ⟨_, first, ?_⟩
        rw [(ih _).mpr rest]
        rfl

theorem flow_checks_exact_iff (items : List (Json F)) (checks : List (StoredCheck F))
    (distinct : ∀ item ∈ items, DistinctKeys item) (read : flowChecks items = .ok checks) :
    items.map JsonValue.normalize =
        (checks.map fun check => Json.obj check.members).map JsonValue.normalize ↔
      ∀ item ∈ items, IsCheck item := by
  have all := (flow_checks_ok items checks).mp read
  clear read
  induction all with
  | nil => exact iff_of_true rfl nofun
  | cons first rest ih =>
    obtain ⟨apart, others⟩ := List.forall_mem_cons.mp distinct
    obtain ⟨record, rfl, name, passed, reason⟩ := (flow_check_ok _ _).mp first
    have own := check_exact_iff record _ apart (get_of_present _ _ _ name)
      (get_of_present _ _ _ passed) (get_of_present _ _ _ reason)
    rw [List.map_cons, List.map_cons, List.map_cons, List.cons.injEq, List.forall_mem_cons]
    exact and_congr own (ih others)

theorem flow_checks_members (checks : List (StoredCheck F)) :
    flowChecks (checks.map fun check => Json.obj check.members) = .ok checks := by
  apply (flow_checks_ok _ _).mpr
  apply List.forall₂_map_left_iff.mpr
  apply List.forall₂_same.mpr
  intro check _
  exact (flow_check_ok _ _).mpr ⟨_, rfl, rfl, rfl, rfl⟩

theorem filtered_members (checks : List (StoredCheck F)) :
    (checks.map fun check => Json.obj check.members).filterMap checkOf = checks := by
  rw [List.filterMap_map]
  calc
    checks.filterMap (checkOf ∘ fun check => Json.obj check.members) =
        checks.filterMap some := by
      apply List.filterMap_congr
      intro check _
      exact (check_of_some _ _).mpr ⟨_, rfl, rfl, rfl, rfl, rfl⟩
    _ = checks := List.filterMap_some

theorem tuple_exact_iff (value : Json F) (items : List (Json F)) (read : tupleOf value = .ok items) :
    JsonValue.normalize value = JsonValue.normalize (.arr items) ↔ ∃ own, value = .arr own := by
  constructor
  · intro same
    rw [JsonValue.normalize.eq_def (.arr _)] at same
    exact list_of_normalize value _ same
  · intro listed
    obtain ⟨own, rfl⟩ := listed
    cases read
    rfl

theorem decode_member_ok {α : Type} (members : List α) (text : α → String) (fault : Fault)
    (value : Json F) (member : α) (inside : member ∈ members)
    (apart : ∀ other ∈ members, text other = text member → other = member) :
    decodeMember members text fault value = .ok member ↔ value = .str (text member) := by
  constructor
  · intro read
    unfold decodeMember at read
    split at read
    · cases read
    · cases read
    · split at read
      · rename_i found
        cases read
        exact (named_shape members text value member found).1
      · cases read
  · intro same
    rw [same]
    exact decode_member_text members text fault member inside apart

theorem verification_status_ok (fault : Fault) (value : Json F) (status : VerificationStatus) :
    decodeMember verificationStatuses VerificationStatus.text fault value = .ok status ↔
      value = .str status.text := by
  apply decode_member_ok
  · cases status <;> decide
  · cases status <;> decide

theorem flow_status_ok (fault : Fault) (value : Json F) (status : FlowStatus) :
    decodeMember flowStatuses FlowStatus.text fault value = .ok status ↔
      value = .str status.text := by
  apply decode_member_ok
  · cases status <;> decide
  · cases status <;> decide

variable [FloatText F]

theorem stored_growth_ok (verifiedGrowthId growthId sliceId status : Json F)
    (reasons : List (Json F)) (checks : List (StoredCheck F)) (candidate : Option GrowthCandidate)
    (result : StoredGrowth F) :
    storedGrowth verifiedGrowthId growthId sliceId status reasons checks candidate = .ok result ↔
      verifiedGrowthId = .str result.verifiedGrowthId.1 ∧ growthId = .str result.growthId.1 ∧
      sliceId = .str result.sliceId.1 ∧ status = .str result.status.text ∧
      reasons = result.reasonCodes.map .str ∧ checks = result.checks ∧
      candidate = result.candidate := by
  unfold storedGrowth
  simp only [bind_ok, lifted_ok, Flows.identified_of_ok, verification_status_ok]
  constructor
  · intro run
    obtain ⟨own, ownHeld, growth, growthHeld, slice, sliceHeld, state, stateHeld, made⟩ := run
    split at made
    · cases made
    · rename_i texts plain
      have listed := (plain_texts_iff reasons texts).mp plain
      split at made
      · split at made
        · split at made
          · cases made
            exact ⟨ownHeld, growthHeld, sliceHeld, stateHeld, listed, rfl, rfl⟩
          · cases made
        · split at made <;> cases made
      · cases made
  · intro known
    obtain ⟨ownHeld, growthHeld, sliceHeld, stateHeld, listed, rfl, rfl⟩ := known
    refine ⟨_, ownHeld, _, growthHeld, _, sliceHeld, _, stateHeld, ?_⟩
    rw [(plain_texts_iff reasons _).mpr listed]
    simp only
    rw [dif_pos result.reasonsFilled, dif_pos result.shape, dif_pos result.candidateMatches]

/-- How a growth result and the record that it is read from belong together. -/
structure GrowthRead (record : Members F) (result : StoredGrowth F) : Prop where
  fields : fieldSet record = sortedSet growthFields
  verifiedGrowthId : get record "verified_growth_id" = .str result.verifiedGrowthId.1
  growthId : get record "growth_id" = .str result.growthId.1
  sliceId : get record "slice_id" = .str result.sliceId.1
  status : get record "status" = .str result.status.text
  reasons : get record "reason_codes" = .arr (result.reasonCodes.map .str)
  checks : ∃ items, get record "checks" = .arr items ∧ items.filterMap checkOf = result.checks
  canonical : identifierOf "verified_growth" result.identity = .ok result.verifiedGrowthId.1

theorem read_growth_ok (record : Members F) (candidate : Option GrowthCandidate)
    (result : StoredGrowth F) : readGrowth (.obj record) candidate = .ok result ↔
      GrowthRead record result ∧ candidate = result.candidate := by
  unfold readGrowth
  simp only [objectOf, bind_ok, insist_ok, decide_eq_true_iff]
  constructor
  · intro run
    obtain ⟨_, fields, made⟩ := run
    split at made
    · rename_i reasons checks reasonsHeld checksHeld
      simp only [bind_ok, stored_growth_ok, insist_ok, decide_eq_true_iff] at made
      obtain ⟨own, ⟨ownHeld, growthHeld, sliceHeld, stateHeld, listed, kept, held⟩, expected,
        canonical, _, same, done⟩ := made
      cases done
      rw [← same] at canonical
      exact ⟨⟨fields, ownHeld, growthHeld, sliceHeld, stateHeld, by rw [reasonsHeld, listed],
        ⟨checks, checksHeld, kept⟩, canonical⟩, held⟩
    · cases made
  · intro known
    obtain ⟨read, rfl⟩ := known
    obtain ⟨items, checksHeld, kept⟩ := read.checks
    refine ⟨(), read.fields, ?_⟩
    rw [read.reasons, checksHeld]
    simp only [bind_ok, stored_growth_ok, insist_ok, decide_eq_true_iff]
    exact ⟨result, ⟨read.verifiedGrowthId, read.growthId, read.sliceId, read.status, rfl, kept, rfl⟩,
      _, read.canonical, (), rfl, rfl⟩

/-- The identifier of the result is the one of what it holds. -/
def StoredGrowth.Canonical (result : StoredGrowth F) : Prop :=
  identifierOf "verified_growth" result.identity = .ok result.verifiedGrowthId.1

/-- Every check of a growth record has the fields of one. -/
def ChecksKept (value : Json F) : Prop :=
  ∃ record items, value = .obj record ∧ get record "checks" = .arr items ∧
    ∀ item ∈ items, IsCheck item

theorem growth_back_iff (result : StoredGrowth F) :
    readGrowth (.obj result.members) result.candidate = .ok result ↔ result.Canonical := by
  rw [read_growth_ok]
  constructor
  · intro known
    exact known.1.canonical
  · intro canonical
    exact ⟨⟨rfl, rfl, rfl, rfl, rfl, rfl, ⟨_, rfl, filtered_members result.checks⟩, canonical⟩, rfl⟩

theorem growth_members_distinct (result : StoredGrowth F) :
    (result.members.map Prod.fst).Nodup := by
  change growthFields.Nodup
  decide

theorem growth_exact_iff (value : Json F) (candidate : Option GrowthCandidate)
    (result : StoredGrowth F) (distinct : DistinctKeys value)
    (read : readGrowth value candidate = .ok result) :
    JsonValue.normalize (.obj result.members) = JsonValue.normalize value ↔ ChecksKept value := by
  cases value with
  | obj record =>
    obtain ⟨known, _⟩ := (read_growth_ok record candidate result).mp read
    obtain ⟨items, held, kept⟩ := known.checks
    have apart := get_distinct record distinct "checks"
    rw [held] at apart
    have exact_ := filtered_exact_iff items ((distinctItems_iff items).mp apart)
    rw [kept] at exact_
    rw [eq_comm, normalize_obj, normalize_eq_fields record result.members growthFields distinct.1
      (growth_members_distinct result) known.fields rfl]
    constructor
    · intro same
      have own := same "checks" (by decide)
      rw [held] at own
      exact ⟨record, items, rfl, held, exact_.mp ((normalize_arr _ _).mp own)⟩
    · intro each
      obtain ⟨_, others, same, listed, all⟩ := each
      cases same
      cases held.symm.trans listed
      intro key inside
      simp only [growthFields, List.mem_cons, List.not_mem_nil, or_false] at inside
      rcases inside with rfl | rfl | rfl | rfl | rfl | rfl
      · rw [known.verifiedGrowthId]
        rfl
      · rw [known.growthId]
        rfl
      · rw [known.sliceId]
        rfl
      · rw [known.status]
        rfl
      · rw [known.reasons]
        rfl
      · rw [held]
        exact (normalize_arr _ _).mpr (exact_.mpr all)
  | _ => cases read

end

section

variable {F : Type} [FloatText F]

theorem stored_flow_ok (verifiedFlowId pathId entryId growthId status : Json F)
    (reasonCodes : List (Json F)) (checks : List (StoredCheck F))
    (evidenceIds unresolvedFacts : List (Json F)) (proof : FlowProof) (flow : StoredFlow F) :
    storedFlow verifiedFlowId pathId entryId growthId status reasonCodes checks evidenceIds
        unresolvedFacts proof = .ok flow ↔
      verifiedFlowId = .str flow.verifiedFlowId ∧ pathId = .str flow.proof.pathId ∧
      entryId = .str flow.proof.entryId ∧ growthId = .str flow.proof.growthId ∧
      status = .str flow.status.text ∧ reasonCodes = flow.reasonCodes ∧ checks = flow.checks ∧
      evidenceIds = flow.evidenceIds ∧ unresolvedFacts = flow.unresolvedFacts ∧
      proof = flow.proof := by
  unfold storedFlow
  simp only [bind_ok, insist_ok, Bool.and_eq_true, is_text, flow_status_ok]
  constructor
  · intro run
    obtain ⟨_, ⟨⟨pathHeld, entryHeld⟩, growthHeld⟩, state, stateHeld, made⟩ := run
    split at made
    · split at made
      · split at made
        · rename_i same
          cases made
          exact ⟨(is_text _ _).mp same, pathHeld, entryHeld, growthHeld, stateHeld, rfl, rfl, rfl, rfl, rfl⟩
        · cases made
      · cases made
    · cases made
  · intro known
    obtain ⟨idHeld, pathHeld, entryHeld, growthHeld, stateHeld, rfl, rfl, rfl, rfl, rfl⟩ := known
    refine ⟨(), ⟨⟨pathHeld, entryHeld⟩, growthHeld⟩, _, stateHeld, ?_⟩
    rw [dif_pos flow.shape]
    split
    · rename_i identifier made
      cases flow.idCanonical.symm.trans made
      rw [if_pos ((is_text _ _).mpr idHeld)]
    · rename_i fault made
      cases flow.idCanonical.symm.trans made

omit [FloatText F] in
theorem read_proof_ok (proofs : Option (List (String × FlowProof))) (value : Json F)
    (proof : FlowProof) :
    readProof proofs value = .ok proof ↔ ∃ record, value = .obj record ∧ ProofRead record proof ∧
      ∀ known ∈ proofs, known.lookup proof.pathId = some proof := by
  unfold readProof
  cases value with
  | obj record =>
    simp only [objectOf, bind_ok, lifted_ok, Flows.from_dict_ok, insist_ok, decide_eq_true_iff]
    constructor
    · intro run
      obtain ⟨own, read, _, matching, same⟩ := run
      cases same
      exact ⟨record, rfl, read, matching⟩
    · intro known
      obtain ⟨_, same, read, matching⟩ := known
      cases same
      exact ⟨proof, read, (), matching, rfl⟩
  | _ => simp [objectOf]

/-- How a verified flow and the record that it is read from belong together. -/
structure FlowRead (record : Members F) (flow : StoredFlow F) : Prop where
  fields : fieldSet record = sortedSet flowFields
  proof : ∃ own, get record "proof" = .obj own ∧ ProofRead own flow.proof
  verifiedFlowId : get record "verified_flow_id" = .str flow.verifiedFlowId
  pathId : get record "path_id" = .str flow.proof.pathId
  entryId : get record "entry_id" = .str flow.proof.entryId
  growthId : get record "growth_id" = .str flow.proof.growthId
  status : get record "status" = .str flow.status.text
  reasons : tupleOf (get record "reason_codes") = .ok flow.reasonCodes
  checks : ∃ items, get record "checks" = .arr items ∧ flowChecks items = .ok flow.checks
  evidence : tupleOf (get record "evidence_ids") = .ok flow.evidenceIds
  unresolved : tupleOf (get record "unresolved_facts") = .ok flow.unresolvedFacts

theorem read_flow_ok (proofs : Option (List (String × FlowProof))) (record : Members F)
    (flow : StoredFlow F) : readFlow proofs (.obj record) = .ok flow ↔ FlowRead record flow ∧
      ∀ known ∈ proofs, known.lookup flow.proof.pathId = some flow.proof := by
  unfold readFlow
  simp only [objectOf, bind_ok, insist_ok, decide_eq_true_iff, read_proof_ok]
  constructor
  · intro run
    obtain ⟨_, fields, proof, ⟨own, ownHeld, ownRead, matching⟩, made⟩ := run
    split at made
    · rename_i items held
      simp only [bind_ok, stored_flow_ok] at made
      obtain ⟨reasons, reasonsRead, checks, checksRead, evidence, evidenceRead, facts, factsRead,
        idHeld, pathHeld, entryHeld, growthHeld, stateHeld, rfl, rfl, rfl, rfl, rfl⟩ := made
      exact ⟨⟨fields, ⟨own, ownHeld, ownRead⟩, idHeld, pathHeld, entryHeld, growthHeld, stateHeld,
        reasonsRead, ⟨items, held, checksRead⟩, evidenceRead, factsRead⟩, matching⟩
    · cases made
  · intro known
    obtain ⟨read, matching⟩ := known
    obtain ⟨own, ownHeld, ownRead⟩ := read.proof
    obtain ⟨items, held, checksRead⟩ := read.checks
    refine ⟨(), read.fields, flow.proof, ⟨own, ownHeld, ownRead, matching⟩, ?_⟩
    rw [held]
    simp only [bind_ok, stored_flow_ok]
    exact ⟨_, read.reasons, _, checksRead, _, read.evidence, _, read.unresolved,
      read.verifiedFlowId, read.pathId, read.entryId, read.growthId, read.status, rfl, rfl, rfl,
      rfl, trivial⟩

/-- A flow record of a full proof and of lists, with nothing but the fields of a check in each
of its checks. -/
structure FullFlow (record : Members F) : Prop where
  proof : ∃ own, get record "proof" = .obj own ∧ FullRecord own
  reasons : ∃ items, get record "reason_codes" = .arr items
  checks : ∃ items, get record "checks" = .arr items ∧ ∀ item ∈ items, IsCheck item
  evidence : ∃ items, get record "evidence_ids" = .arr items
  unresolved : ∃ items, get record "unresolved_facts" = .arr items

theorem flow_back (flow : StoredFlow F) (proofs : Option (List (String × FlowProof)))
    (matching : ∀ known ∈ proofs, known.lookup flow.proof.pathId = some flow.proof) :
    readFlow proofs (.obj flow.members) = .ok flow := by
  apply (read_flow_ok proofs _ flow).mpr
  refine ⟨?_, matching⟩
  exact {
    fields := rfl
    proof := ⟨_, rfl, (Flows.from_dict_ok _ _).mp (Flows.members_read flow.proof)⟩
    verifiedFlowId := rfl
    pathId := rfl
    entryId := rfl
    growthId := rfl
    status := rfl
    reasons := rfl
    checks := ⟨_, rfl, flow_checks_members flow.checks⟩
    evidence := rfl
    unresolved := rfl }

theorem flow_members_distinct (flow : StoredFlow F) : (flow.members.map Prod.fst).Nodup := by
  change flowFields.Nodup
  decide

theorem flow_record_exact_iff (record : Members F) (proofs : Option (List (String × FlowProof)))
    (flow : StoredFlow F) (distinct : DistinctKeys (.obj record))
    (read : readFlow proofs (.obj record) = .ok flow) :
    JsonValue.normalize (.obj flow.members) = JsonValue.normalize (.obj record) ↔
      FullFlow record := by
  obtain ⟨known, _⟩ := (read_flow_ok proofs record flow).mp read
  obtain ⟨own, ownHeld, ownRead⟩ := known.proof
  obtain ⟨items, held, checksRead⟩ := known.checks
  have apart := get_distinct record distinct
  have ownApart := apart "proof"
  have itemsApart := apart "checks"
  rw [ownHeld] at ownApart
  rw [held] at itemsApart
  have proof := Flows.proof_exact_iff own flow.proof ownApart ownRead
  have checks := flow_checks_exact_iff items flow.checks ((distinctItems_iff items).mp itemsApart)
    checksRead
  rw [eq_comm, normalize_obj, normalize_eq_fields record flow.members flowFields distinct.1
    (flow_members_distinct flow) known.fields rfl]
  constructor
  · intro same
    have proofSame := same "proof" (by decide)
    have checksSame := same "checks" (by decide)
    rw [ownHeld] at proofSame
    rw [held] at checksSame
    exact {
      proof := ⟨own, ownHeld, proof.mp proofSame⟩
      reasons := (tuple_exact_iff _ _ known.reasons).mp (same "reason_codes" (by decide))
      checks := ⟨items, held, checks.mp ((normalize_arr _ _).mp checksSame)⟩
      evidence := (tuple_exact_iff _ _ known.evidence).mp (same "evidence_ids" (by decide))
      unresolved := (tuple_exact_iff _ _ known.unresolved).mp
        (same "unresolved_facts" (by decide)) }
  · intro full
    obtain ⟨other, otherHeld, whole⟩ := full.proof
    obtain ⟨others, othersHeld, each⟩ := full.checks
    cases ownHeld.symm.trans otherHeld
    cases held.symm.trans othersHeld
    intro key inside
    simp only [flowFields, List.mem_cons, List.not_mem_nil, or_false] at inside
    rcases inside with rfl | rfl | rfl | rfl | rfl | rfl | rfl | rfl | rfl | rfl
    · rw [known.verifiedFlowId]
      rfl
    · rw [known.pathId]
      rfl
    · rw [known.entryId]
      rfl
    · rw [known.growthId]
      rfl
    · rw [known.status]
      rfl
    · exact (tuple_exact_iff _ _ known.reasons).mpr full.reasons
    · rw [held]
      exact (normalize_arr _ _).mpr (checks.mpr each)
    · exact (tuple_exact_iff _ _ known.evidence).mpr full.evidence
    · exact (tuple_exact_iff _ _ known.unresolved).mpr full.unresolved
    · rw [ownHeld]
      exact proof.mpr whole

/-- Nothing of a flow record is passed over or made anew. -/
def FlowKept (value : Json F) : Prop := ∃ record, value = .obj record ∧ FullFlow record

theorem flow_exact_iff (value : Json F) (proofs : Option (List (String × FlowProof)))
    (flow : StoredFlow F) (distinct : DistinctKeys value)
    (read : readFlow proofs value = .ok flow) :
    JsonValue.normalize (.obj flow.members) = JsonValue.normalize value ↔ FlowKept value := by
  cases value with
  | obj record =>
    rw [flow_record_exact_iff record proofs flow distinct read]
    constructor
    · intro full
      exact ⟨record, rfl, full⟩
    · intro kept
      obtain ⟨_, same, full⟩ := kept
      cases same
      exact full
  | _ => cases read

end

/-- A stored growth result comes back exactly where its identifier is canonical, a verified flow
always does; an accepted record is written back exactly where nothing of it was passed over. -/
theorem verified_codecs_iff {F : Type} [FloatText F] : (∀ result : StoredGrowth F,
      readGrowth (.obj result.members) result.candidate = .ok result ↔ result.Canonical) ∧
    (∀ (value : Json F) candidate result, DistinctKeys value →
      readGrowth value candidate = .ok result →
      (JsonValue.normalize (.obj result.members) = JsonValue.normalize value ↔ ChecksKept value)) ∧
    (∀ (flow : StoredFlow F) proofs,
      (∀ known ∈ proofs, known.lookup flow.proof.pathId = some flow.proof) →
      readFlow proofs (.obj flow.members) = .ok flow) ∧
    (∀ (value : Json F) proofs flow, DistinctKeys value → readFlow proofs value = .ok flow →
      (JsonValue.normalize (.obj flow.members) = JsonValue.normalize value ↔ FlowKept value)) :=
  ⟨growth_back_iff, growth_exact_iff, flow_back, flow_exact_iff⟩

theorem plain_identifier (lead : String) (identity : Members Empty)
    (printed : printable maxIntegerDigits (.obj identity : PlainJson) = true) :
    identifierOf lead identity = .ok (stableIdentifier lead identity) := by
  rw [identifierOf, if_pos printed]
  rfl

theorem optional_printed (text : Option String) :
    printable maxIntegerDigits (optionalText text) = true := by
  cases text <;> rfl

def storedCheck (check : VerificationCheck) : StoredCheck Empty :=
  ⟨.str check.name, .bool check.passed, optionalText check.reasonCode⟩

def storedResult (result : VerifiedGrowthResult) : StoredGrowth Empty where
  verifiedGrowthId := ⟨result.verifiedGrowthId, result.idStarts⟩
  growthId := ⟨result.growthId, result.growthIdStarts⟩
  sliceId := ⟨result.sliceId, result.sliceIdStarts⟩
  status := result.status
  reasonCodes := result.reasonCodes
  checks := result.checks.map storedCheck
  candidate := result.candidate
  reasonsFilled := result.reasonsFilled
  shape := {
    verifiedUnreasoned := result.verifiedUnreasoned
    verifiedChecked := fun verified => by
      rw [Ne, List.map_eq_nil_iff]
      exact result.verifiedChecked verified
    verifiedPassed := fun verified => by
      intro check inside
      obtain ⟨own, listed, same⟩ := List.mem_map.mp inside
      rw [← same]
      exact result.verifiedPassed verified own listed
    failureReasoned := result.failureReasoned }
  candidateMatches := result.candidateMatches

theorem check_printed (check : VerificationCheck) :
    printable maxIntegerDigits (.obj (storedCheck check).members : PlainJson) = true := by
  rw [printable, printableMembers_iff]
  intro member inside
  simp only [StoredCheck.members, storedCheck, List.mem_cons, List.not_mem_nil, or_false] at inside
  rcases inside with rfl | rfl | rfl
  · rfl
  · rfl
  · exact optional_printed check.reasonCode

theorem stored_result_printed (result : VerifiedGrowthResult) :
    printable maxIntegerDigits (.obj (storedResult result).identity : PlainJson) = true := by
  rw [printable, printableMembers_iff]
  intro member inside
  simp only [StoredGrowth.identity, List.mem_cons, List.not_mem_nil, or_false] at inside
  rcases inside with rfl | rfl | rfl | rfl | rfl
  · rfl
  · rfl
  · rfl
  · exact texts_printed _
  · rw [printable, printableItems_iff]
    intro item listed
    obtain ⟨check, held, rfl⟩ := List.mem_map.mp listed
    obtain ⟨own, _, rfl⟩ := List.mem_map.mp held
    exact check_printed own

theorem verifier_canonical (candidate : GrowthCandidate) (boundedSlice : BoundedSlice)
    (contract : GrowthContract) (index : StaticFactIndex) (built : VerifiedGrowthResult)
    (returned : verifyGrowthContract candidate boundedSlice contract index = .ok built) :
    (storedResult built).Canonical := by
  unfold StoredGrowth.Canonical
  rw [plain_identifier _ _ (stored_result_printed built)]
  have named : ∀ status reasons checks,
      Growth.result candidate boundedSlice status reasons checks = .ok built →
        stableIdentifier "verified_growth" (storedResult built).identity =
          built.verifiedGrowthId := by
    intro status reasons checks made
    unfold Growth.result at made
    split at made
    · cases made
      simp only [StoredGrowth.identity, storedResult, List.map_map]
      rfl
    · split at made <;> cases made
  congr 1
  unfold verifyGrowthContract at returned
  split at returned
  · split at returned
    · exact named _ _ _ returned
    · exact named _ _ _ returned
  · cases returned

def storedFlowCheck (check : FlowCheck) : StoredCheck Empty :=
  ⟨.str check.name, .bool check.passed, optionalText check.reasonCode⟩

theorem stored_flow_printed (flow : VerifiedFlow) :
    printable maxIntegerDigits (.obj (storedFlowIdentity flow.proof flow.status
      (flow.reasonCodes.map .str) (flow.checks.map storedFlowCheck) (flow.evidenceIds.map .str)
      (flow.unresolvedFacts.map .str)) : PlainJson) = true := by
  rw [printable, printableMembers_iff]
  intro member inside
  simp only [storedFlowIdentity, List.mem_cons, List.not_mem_nil, or_false] at inside
  rcases inside with rfl | rfl | rfl | rfl | rfl | rfl | rfl | rfl
  · rfl
  · rfl
  · rfl
  · rfl
  · exact texts_printed _
  · rw [printable, printableItems_iff]
    intro item listed
    obtain ⟨check, held, rfl⟩ := List.mem_map.mp listed
    obtain ⟨own, _, rfl⟩ := List.mem_map.mp held
    simp [StoredCheck.row, storedFlowCheck, printable, printableItems, optional_printed]
  · exact texts_printed _
  · exact texts_printed _

def storedVerified (flow : VerifiedFlow) : StoredFlow Empty where
  verifiedFlowId := flow.verifiedFlowId
  status := flow.status
  reasonCodes := flow.reasonCodes.map .str
  checks := flow.checks.map storedFlowCheck
  evidenceIds := flow.evidenceIds.map .str
  unresolvedFacts := flow.unresolvedFacts.map .str
  proof := flow.proof
  shape := {
    checked := by
      rw [Ne, List.map_eq_nil_iff]
      exact flow.shape.checked
    verifiedUnreasoned := fun verified => by
      rw [List.map_eq_nil_iff]
      exact flow.shape.verifiedUnreasoned verified
    verifiedPassed := fun verified => by
      intro check inside
      obtain ⟨own, listed, same⟩ := List.mem_map.mp inside
      rw [← same]
      exact flow.shape.verifiedPassed verified own listed
    failureReasoned := fun failed => by
      rw [Ne, List.map_eq_nil_iff]
      exact flow.shape.failureReasoned failed }
  idCanonical := by
    rw [plain_identifier _ _ (stored_flow_printed flow), flow.idCanonical, flow.pathMatches,
      flow.entryMatches, flow.growthMatches]
    simp only [storedFlowIdentity, verifiedFlowIdentity, List.map_map]
    rfl

section

variable {F : Type} [FloatText F]

/-- The record of a growth result with one more item among its checks. -/
def withItem (result : StoredGrowth F) (item : Json F) : Members F :=
  [("verified_growth_id", .str result.verifiedGrowthId.1), ("growth_id", .str result.growthId.1),
    ("slice_id", .str result.sliceId.1), ("status", .str result.status.text),
    ("reason_codes", .arr (result.reasonCodes.map .str)),
    ("checks", .arr ((result.checks.map fun check => .obj check.members) ++ [item]))]

theorem item_dropped (result : StoredGrowth F) (item : Json F) (canonical : result.Canonical)
    (other : checkOf item = none) :
    readGrowth (.obj (withItem result item)) result.candidate = .ok result := by
  apply (read_growth_ok _ _ _).mpr
  refine ⟨⟨rfl, rfl, rfl, rfl, rfl, rfl, ⟨_, rfl, ?_⟩, canonical⟩, rfl⟩
  rw [List.filterMap_append, filtered_members, List.filterMap_cons_none other, List.filterMap_nil,
    List.append_nil]

end

theorem optional_distinct (text : Option String) : DistinctKeys (optionalText text) := by
  cases text <;> trivial

theorem check_distinct (check : StoredCheck Empty) (name : DistinctKeys check.name)
    (passed : DistinctKeys check.passed) (reason : DistinctKeys check.reasonCode) :
    DistinctKeys (.obj check.members) := by
  refine ⟨check_members_distinct check, (distinctMembers_iff _).mpr ?_⟩
  intro member held
  simp only [StoredCheck.members, List.mem_cons, List.not_mem_nil, or_false] at held
  rcases held with rfl | rfl | rfl
  · exact name
  · exact passed
  · exact reason

def failedItem : PlainJson := .obj [("name", .str "owner"), ("passed", .bool false)]

def sampleStored : StoredGrowth Empty := storedResult Growth.sampleGrowth

theorem with_item_distinct (result : VerifiedGrowthResult) (added : PlainJson)
    (apart : DistinctKeys added) : DistinctKeys (.obj (withItem (storedResult result) added)) := by
  refine ⟨growth_members_distinct (storedResult result), (distinctMembers_iff _).mpr ?_⟩
  intro member inside
  simp only [withItem, List.mem_cons, List.not_mem_nil, or_false] at inside
  rcases inside with rfl | rfl | rfl | rfl | rfl | rfl
  · trivial
  · trivial
  · trivial
  · trivial
  · exact texts_distinct _
  · apply (distinctItems_iff _).mpr
    intro item listed
    rcases List.mem_append.mp listed with own | last
    · obtain ⟨check, held, rfl⟩ := List.mem_map.mp own
      obtain ⟨given, _, rfl⟩ := List.mem_map.mp held
      exact check_distinct _ trivial trivial (optional_distinct given.reasonCode)
    · rw [List.mem_singleton.mp last]
      exact apart

theorem failed_item_distinct : DistinctKeys failedItem := ⟨by decide, trivial, trivial, trivial⟩

theorem failed_item_read :
    readGrowth (.obj (withItem sampleStored failedItem)) sampleStored.candidate = .ok sampleStored :=
  item_dropped sampleStored failedItem
    (verifier_canonical _ _ _ _ _ Growth.sample_growth_returned) (by decide)

theorem proof_distinct (proof : FlowProof) : DistinctKeys (.obj proof.members : PlainJson) := by
  refine ⟨Flows.members_distinct proof, (distinctMembers_iff _).mpr ?_⟩
  intro member inside
  simp only [FlowProof.members, List.mem_cons, List.not_mem_nil, or_false] at inside
  rcases inside with rfl | rfl | rfl | rfl | rfl | rfl | rfl | rfl | rfl | rfl
  case inr.inr.inr.inl =>
    refine ⟨?_, trivial, trivial, trivial, trivial⟩
    change Flows.controlFields.Nodup
    decide
  case inr.inr.inr.inr.inl => exact texts_distinct _
  case inr.inr.inr.inr.inr.inl => exact texts_distinct _
  all_goals trivial

theorem verified_distinct (flow : VerifiedFlow) :
    DistinctKeys (.obj (storedVerified flow).members) := by
  refine ⟨flow_members_distinct (storedVerified flow), (distinctMembers_iff _).mpr ?_⟩
  intro member inside
  simp only [StoredFlow.members, List.mem_cons, List.not_mem_nil, or_false] at inside
  rcases inside with rfl | rfl | rfl | rfl | rfl | rfl | rfl | rfl | rfl | rfl
  · trivial
  · trivial
  · trivial
  · trivial
  · trivial
  · exact texts_distinct _
  · apply (distinctItems_iff _).mpr
    intro item listed
    obtain ⟨check, held, rfl⟩ := List.mem_map.mp listed
    obtain ⟨given, _, rfl⟩ := List.mem_map.mp held
    exact check_distinct _ trivial trivial (optional_distinct given.reasonCode)
  · exact texts_distinct _
  · exact texts_distinct _
  · exact proof_distinct flow.proof

def sampleStoredFlow : StoredFlow Empty := storedVerified Conclude.sampleFlow

theorem verified_codecs_sample : (JsonValue.normalize (.obj sampleStored.members : PlainJson) =
        JsonValue.normalize (.obj (withItem sampleStored failedItem)) ↔
      ChecksKept (.obj (withItem sampleStored failedItem) : PlainJson)) ∧
    readFlow none (.obj sampleStoredFlow.members) = .ok sampleStoredFlow ∧
    FlowKept (.obj sampleStoredFlow.members : PlainJson) := by
  have laws := verified_codecs_iff (F := Empty)
  have back := laws.2.2.1 sampleStoredFlow none nofun
  refine ⟨laws.2.1 _ _ _ ?_ failed_item_read, back, ?_⟩
  · exact with_item_distinct Growth.sampleGrowth failedItem failed_item_distinct
  · exact (laws.2.2.2 _ none _ (verified_distinct Conclude.sampleFlow) back).mp rfl

/-- The failed check is left out of the verification, and its record is accepted. -/
theorem failed_check_dropped : ¬ ∀ (value : PlainJson) (candidate : Option GrowthCandidate)
    (result : StoredGrowth Empty), DistinctKeys value → readGrowth value candidate = .ok result →
      JsonValue.normalize (.obj result.members) = JsonValue.normalize value := by
  intro claimed
  have distinct := with_item_distinct Growth.sampleGrowth failedItem failed_item_distinct
  have same := claimed _ _ _ distinct failed_item_read
  obtain ⟨record, items, held, listed, each⟩ := (growth_exact_iff _ _ _ distinct
    failed_item_read).mp same
  rw [← Json.obj.inj held] at listed
  have appended : Json.arr ((sampleStored.checks.map fun check => .obj check.members) ++
    [failedItem]) = .arr items := listed
  have added : failedItem ∈ items := by
    rw [← Json.arr.inj appended]
    exact List.mem_append_right _ (List.mem_singleton_self _)
  obtain ⟨members, own, fields⟩ := each failedItem added
  rw [← Json.obj.inj own] at fields
  revert fields
  decide

end DosWeb.Production
