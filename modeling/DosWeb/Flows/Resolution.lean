import DosWeb.Conclude.Soundness
import DosWeb.Flows.RowLaws

/-!
A batch of raw rows: its proofs are those of its rows, none is lost or merged, and none is trusted
more than its row.
-/

namespace DosWeb.Flows

open Library.JsonValue Library.JsonRecord Library.Grouping Identifiers
open Entries (EntryFact sampleEntry)
open Growth (GrowthCandidate VerifiedGrowthResult)

variable {F : Type}

def pathIds (proofs : List FlowProof) : List String := proofs.map FlowProof.pathId

theorem path_ids_append (known own : List FlowProof) :
    pathIds (known ++ own) = pathIds known ++ pathIds own := List.map_append

section

variable {α : Type} (step : α → Checked FlowProof)
  (run : List α → List FlowProof → Checked (List FlowProof))
  (empty : ∀ known, run [] known = .ok known)
  (next : ∀ item items known, run (item :: items) known = do
    let proof ← step item
    require (proof.pathId ∉ pathIds known) (flowInvalid "DUPLICATE_PATH_ID")
    run items (known ++ [proof]))

include empty next

theorem gathered_ok (items : List α) (known added : List FlowProof)
    (distinct : (pathIds known).Nodup) :
    run items known = .ok added ↔ ∃ own, items.mapM step = .ok own ∧ added = known ++ own ∧
      (pathIds added).Nodup := by
  induction items generalizing known with
  | nil =>
    rw [empty]
    constructor
    · intro ran
      cases ran
      exact ⟨[], rfl, (List.append_nil _).symm, distinct⟩
    · intro all
      obtain ⟨own, made, same, _⟩ := all
      rw [List.mapM_nil] at made
      cases made
      rw [same, List.append_nil]
  | cons item items ih =>
    rw [next]
    simp only [bind_ok, require_ok, decide_eq_true_iff, List.mapM_cons]
    constructor
    · intro ran
      obtain ⟨proof, made, _, fresh, rest⟩ := ran
      have more : (pathIds (known ++ [proof])).Nodup := by
        rw [path_ids_append]
        exact List.nodup_append_comm.mp (List.nodup_cons.mpr ⟨fresh, distinct⟩)
      obtain ⟨own, others, same, all⟩ := (ih _ more).mp rest
      refine ⟨proof :: own, ⟨proof, made, own, others, rfl⟩, ?_, all⟩
      rw [same, List.append_assoc]
      rfl
    · intro all
      obtain ⟨own, made, same, nodup⟩ := all
      obtain ⟨proof, first, own, others, listed⟩ := made
      cases listed
      have parted : added = known ++ [proof] ++ own := by
        rw [same, List.append_assoc]
        rfl
      have kept : (pathIds (known ++ [proof])).Nodup := by
        rw [parted, path_ids_append] at nodup
        exact (List.nodup_append.mp nodup).1
      have fresh : proof.pathId ∉ pathIds known := by
        rw [path_ids_append] at kept
        exact (List.nodup_cons.mp (List.nodup_append_comm.mp kept)).1
      exact ⟨proof, first, (), fresh, (ih _ kept).mpr ⟨own, others, parted, nodup⟩⟩

end

theorem add_proofs_ok (reading : RowReading F) (entries : List EntryFact)
    (known added : List FlowProof) (distinct : (pathIds known).Nodup) :
    addProofs reading entries known = .ok added ↔
      ∃ own, entries.mapM (entryProof reading) = .ok own ∧ added = known ++ own ∧
        (pathIds added).Nodup :=
  gathered_ok (entryProof reading) (addProofs reading) (fun _ => rfl) (fun _ _ _ => rfl) entries known
    added distinct

/-- A batch adds what each row contributes on its own, all of it under paths of their own. -/
theorem add_rows_ok (maps : RowMaps) (rows : List (Json F)) (known added : List FlowProof)
    (distinct : (pathIds known).Nodup) :
    addRows maps.entries maps.growth maps.canonicalEntryIds rows known = .ok added ↔
      ∃ each, rows.mapM (rowProofs maps) = .ok each ∧ added = known ++ each.flatten ∧
        (pathIds added).Nodup := by
  induction rows generalizing known with
  | nil =>
    constructor
    · intro ran
      cases ran
      exact ⟨[], rfl, (List.append_nil _).symm, distinct⟩
    · intro all
      obtain ⟨each, made, same, _⟩ := all
      rw [List.mapM_nil] at made
      cases made
      rw [same, List.flatten_nil, List.append_nil]
      rfl
  | cons row rows ih =>
    rw [addRows, List.mapM_cons, rowProofs]
    cases objectOf row with
    | none => exact iff_of_false nofun (by simp [bind_ok])
    | some members =>
      simp only [bind_ok]
      constructor
      · intro ran
        obtain ⟨reading, read, more, first, rest⟩ := ran
        obtain ⟨own, made, same, nodup⟩ := (add_proofs_ok _ _ _ _ distinct).mp first
        obtain ⟨each, others, listed, all⟩ := (ih _ nodup).mp rest
        refine ⟨own :: each, ⟨own, ⟨reading, read, made⟩, each, others, rfl⟩, ?_, all⟩
        rw [listed, same, List.flatten_cons, List.append_assoc]
      · intro all
        obtain ⟨each, made, same, nodup⟩ := all
        obtain ⟨own, first, rest, others, listed⟩ := made
        obtain ⟨reading, read, proofs⟩ := first
        cases listed
        rw [List.flatten_cons, ← List.append_assoc] at same
        have kept : (pathIds (known ++ own)).Nodup := by
          rw [same, path_ids_append] at nodup
          exact (List.nodup_append.mp nodup).1
        exact ⟨reading, read, known ++ own, (add_proofs_ok _ _ _ _ distinct).mpr
          ⟨own, proofs, rfl, kept⟩, (ih _ kept).mpr ⟨rest, others, same, nodup⟩⟩

theorem identity_apart (left right : FlowProof)
    (same : canonicalJson (Json.obj left.semanticIdentity : PlainJson) =
      canonicalJson (Json.obj right.semanticIdentity : PlainJson)) : left.pathId = right.pathId := by
  rw [left.pathIdCanonical, right.pathIdCanonical]
  unfold FlowProof.semanticIdentity at same
  rw [stableIdentifier, stableIdentifier, sha256CanonicalJson, sha256CanonicalJson, same]

theorem normalize_rows_ok (maps : RowMaps) (rows : List (Json F)) (proofs : List FlowProof) :
    normalizeRows maps.entries maps.growth maps.canonicalEntryIds rows = .ok proofs ↔
      rows.length ≤ maxRows ∧ ∃ each, rows.mapM (rowProofs maps) = .ok each ∧
        (pathIds each.flatten).Nodup ∧ proofs = byIdentity each.flatten := by
  simp only [normalizeRows, bind_ok, require_ok, decide_eq_true_iff,
    add_rows_ok maps rows [] _ List.nodup_nil]
  constructor
  · intro ran
    obtain ⟨_, few, added, ⟨each, made, same, distinct⟩, sorted⟩ := ran
    cases sorted
    cases same
    exact ⟨few, each, made, distinct, rfl⟩
  · intro all
    obtain ⟨few, each, made, distinct, sorted⟩ := all
    exact ⟨(), few, _, ⟨each, made, rfl, distinct⟩, by rw [sorted]; rfl⟩

section

/-- The proof is one of those that the row stands for. -/
def Contributes (maps : RowMaps) (row : Json F) (proof : FlowProof) : Prop :=
  ∃ proofs, rowProofs maps row = .ok proofs ∧ proof ∈ proofs

def handledAt (places : RowPlaces) (entry : EntryFact) : Prop :=
  entry.handler.file.1 = places.sourceFile ∧ entry.handler.startLine.1 = places.sourceLine

def sinksAt (places : RowPlaces) (candidate : GrowthCandidate) : Prop :=
  candidate.site.file.1 = places.sinkFile ∧ candidate.site.startLine.1 = places.sinkLine

/-- A growth at the sink has a demand that the control drives. -/
def Driven (places : RowPlaces) (control : AttackerControl) (result : VerifiedGrowthResult) : Prop :=
  ∃ candidate, result.candidate = some candidate ∧ sinksAt places candidate ∧
    bindsDemand control candidate = true

/-- The proof joins an entry at the source to the only growth at the sink that the row drives. -/
structure Located (maps : RowMaps) (row : Members F) (places : RowPlaces) (proof : FlowProof) :
    Prop where
  placed : placesOf row = .ok places
  controlled : attackerControlOf row = .ok proof.attackerControl
  entry : ∃ entry ∈ maps.entries.map Prod.snd, handledAt places entry ∧
    readsInput proof.attackerControl.source.1 entry = true ∧ entry.entryId = proof.entryId
  growth : ∃ result ∈ maps.growth.map Prod.snd, Driven places proof.attackerControl result ∧
    result.growthId = proof.growthId ∧
    ∀ other ∈ maps.growth.map Prod.snd, Driven places proof.attackerControl other → other = result

/-- A row that proves its flow: it is proven, complete, of a kind of data flow and of one entry. -/
structure Proves (maps : RowMaps) (row : Members F) : Prop where
  confidence : get row "confidence" = .str "proven"
  coverage : get row "coverage_status" = .str "complete"
  kind : get row "flow_kind" = .str "data_flow" ∨ get row "flow_kind" = .str "local_data_flow"
  single : ∃ reading entry, readRow maps.entries maps.growth maps.canonicalEntryIds row = .ok reading ∧
    reading.resolved = [entry]

variable (maps : RowMaps)

theorem contributes_read (row : Json F) (proof : FlowProof) (held : Contributes maps row proof) :
    ∃ members, row = .obj members ∧ ∃ reading,
      readRow maps.entries maps.growth maps.canonicalEntryIds members = .ok reading ∧
      ∃ entry ∈ reading.resolved, entryProof reading entry = .ok proof := by
  obtain ⟨proofs, ran, inside⟩ := held
  unfold rowProofs at ran
  cases row with
  | obj members =>
    obtain ⟨reading, read, each⟩ := bind_ok.mp ran
    have made := mapM_ok.mp each
    obtain ⟨entry, member, own⟩ := related_right made proof inside
    exact ⟨members, rfl, reading, read, entry, member, own⟩
  | _ => cases ran

theorem driven_iff (places : RowPlaces) (control : AttackerControl)
    (result : VerifiedGrowthResult) (inside : result ∈ maps.growth.map Prod.snd) :
    Driven places control result ↔ ∃ candidate,
      (result, candidate) ∈ growthMatches maps.growth places.sinkFile places.sinkLine control := by
  obtain ⟨item, held, same⟩ := List.mem_map.mp inside
  constructor
  · intro driven
    obtain ⟨candidate, known, place, binds⟩ := driven
    refine ⟨candidate, List.mem_filterMap.mpr ⟨item, held, ?_⟩⟩
    rw [same, known]
    exact if_pos ⟨place.1, place.2, binds⟩
  · intro matched
    obtain ⟨candidate, member⟩ := matched
    obtain ⟨other, _, found⟩ := List.mem_filterMap.mp member
    split at found
    · rename_i known
      split at found
      · rename_i facts
        cases found
        exact ⟨_, known, ⟨facts.1, facts.2.1⟩, facts.2.2⟩
      · cases found
    · cases found

theorem growth_matches_held (places : RowPlaces) (control : AttackerControl)
    (matched : VerifiedGrowthResult × GrowthCandidate)
    (inside : matched ∈ growthMatches maps.growth places.sinkFile places.sinkLine control) :
    matched.1 ∈ maps.growth.map Prod.snd := by
  obtain ⟨item, held, found⟩ := List.mem_filterMap.mp inside
  split at found
  · split at found
    · cases found
      exact List.mem_map_of_mem held
    · cases found
  · cases found

theorem contributed_located (row : Json F) (proof : FlowProof) (held : Contributes maps row proof) :
    ∃ members places, row = .obj members ∧ Located maps members places proof := by
  obtain ⟨members, rfl, reading, read, entry, member, made⟩ := contributes_read maps row proof held
  obtain ⟨_, placed, controlled, grown, _⟩ := (read_row_ok _ _ _ _ _).mp read
  obtain ⟨_, inside⟩ := reading_resolved _ _ _ _ _ read
  obtain ⟨reads, _, _, own⟩ := (entry_proof_ok _ _ _).mp made
  obtain ⟨⟨candidate, single⟩, _⟩ := resolve_growth_ok _ _ _ _ _ grown
  have control : reading.control = proof.attackerControl := own.control
  have matched : (reading.growth, candidate) ∈ growthMatches maps.growth reading.places.sinkFile
      reading.places.sinkLine reading.control := single ▸ List.mem_singleton_self _
  have source := (entry_matches_mem _ _ _ _).mp (entry_domain_mem _ _ _ (inside entry member))
  rw [control] at controlled reads matched single
  have known := growth_matches_held maps _ _ _ matched
  refine ⟨members, reading.places, rfl, placed, controlled, ⟨entry, source.1, source.2, reads,
    own.entryId⟩, reading.growth, known, (driven_iff maps _ _ _ known).mpr ⟨candidate, matched⟩,
    own.growthId, ?_⟩
  intro other within driven
  obtain ⟨_, listed⟩ := (driven_iff maps _ _ _ within).mp driven
  rw [single, List.mem_singleton] at listed
  exact congrArg Prod.fst listed

theorem contributed_proves (row : Json F) (proof : FlowProof) (held : Contributes maps row proof)
    (proven : proof.confidence = .proven) :
    ∃ members, row = .obj members ∧ Proves maps members := by
  obtain ⟨members, rfl, reading, read, entry, member, made⟩ := contributes_read maps row proof held
  obtain ⟨_, _, _, _, _, _, coverage, confidence, flowKind, _⟩ := (read_row_ok _ _ _ _ _).mp read
  obtain ⟨_, _, _, own⟩ := (entry_proof_ok _ _ _).mp made
  have trusted : reading.provenConfidence = .proven := own.confidence.trans proven
  unfold RowReading.provenConfidence at trusted
  split at trusted
  · cases trusted
  · rename_i sound
    simp only [RowReading.fannedOut, Bool.or_eq_true, decide_eq_true_iff, not_or, not_not,
      Bool.not_eq_true', Bool.not_eq_false, Nat.not_lt, dataFlowKind] at sound
    rw [confidence_of_ok, trusted] at confidence
    rw [coverage_of_ok, sound.1.2] at coverage
    rw [text_of_ok] at flowKind
    refine ⟨members, rfl, confidence, coverage, ?_, reading, ?_⟩
    · rcases sound.2 with same | same
      · exact Or.inl (flowKind.trans (congrArg _ same))
      · exact Or.inr (flowKind.trans (congrArg _ same))
    · have filled := List.length_pos_of_mem member
      obtain ⟨only, listed⟩ := List.length_eq_one_iff.mp (Nat.le_antisymm sound.1.1 filled)
      exact ⟨only, read, listed⟩

structure Normalized (rows : List (Json F)) (proofs : List FlowProof) : Prop where
  orderFree : ∀ (moved : List (Json F)) (others : RowMaps), moved.Perm rows →
    maps.Rearranged others → normalizeRecords others.entries others.growth
      others.canonicalEntryIds moved = .ok (proofs.map (FlowProof.members (F := F)))
  lossless : ∀ row ∈ rows, (∃ proof ∈ proofs, Contributes maps row proof) ∧
    ∀ proof, Contributes maps row proof → proof ∈ proofs
  origin : ∀ proof ∈ proofs, ∃ index : Fin rows.length, Contributes maps (rows.get index) proof ∧
    ∀ other, Contributes maps (rows.get other) proof → other = index
  distinct : (pathIds proofs).Nodup
  located : ∀ row ∈ rows, ∀ proof, Contributes maps row proof →
    ∃ members places, row = .obj members ∧ Located maps members places proof
  conservative : ∀ row ∈ rows, ∀ proof, Contributes maps row proof → proof.confidence = .proven →
    ∃ members, row = .obj members ∧ Proves maps members
  readBack : ∀ proof ∈ proofs, FlowProof.fromDict (proof.members : Members F) = .ok proof

theorem row_proofs_filled (row : Json F) (proofs : List FlowProof)
    (ran : rowProofs maps row = .ok proofs) : proofs ≠ [] := by
  unfold rowProofs at ran
  cases row with
  | obj members =>
    obtain ⟨reading, read, each⟩ := bind_ok.mp ran
    obtain ⟨filled, _⟩ := reading_resolved _ _ _ _ _ read
    have length := (mapM_ok.mp each).length_eq
    rw [← List.length_pos_iff] at filled ⊢
    rw [← length]
    exact filled
  | _ => cases ran

theorem by_identity_perm (left right : List FlowProof) (permuted : left.Perm right)
    (distinct : (pathIds right).Nodup) : byIdentity left = byIdentity right := by
  apply sort_perm (fun proof => canonicalJson (Json.obj proof.semanticIdentity : PlainJson))
    right left permuted
  intro one oneHeld other otherHeld same
  exact List.inj_on_of_nodup_map distinct oneHeld otherHeld (identity_apart one other same)

theorem each_perm (rows moved : List (Json F)) (each : List (List FlowProof))
    (permuted : moved.Perm rows) (made : rows.mapM (rowProofs maps) = .ok each) :
    ∃ others, moved.mapM (rowProofs maps) = .ok others ∧ others.flatten.Perm each.flatten := by
  obtain ⟨others, related, same⟩ := List.perm_comp_forall₂ permuted (mapM_ok.mp made)
  exact ⟨others, mapM_ok.mpr related, same.flatten⟩

theorem batch_perm (rows moved : List (Json F)) (others : RowMaps) (proofs : List FlowProof)
    (permuted : moved.Perm rows) (rearranged : maps.Rearranged others)
    (ran : normalizeRows maps.entries maps.growth maps.canonicalEntryIds rows = .ok proofs) :
    normalizeRows others.entries others.growth others.canonicalEntryIds moved = .ok proofs := by
  obtain ⟨few, each, made, distinct, sorted⟩ := (normalize_rows_ok _ _ _).mp ran
  obtain ⟨again, remade, same⟩ := each_perm maps rows moved each permuted made
  have kept : (pathIds again.flatten).Perm (pathIds each.flatten) := same.map _
  apply (normalize_rows_ok _ _ _).mpr
  refine ⟨permuted.length_eq ▸ few, again, ?_, kept.nodup_iff.mpr distinct, ?_⟩
  · apply mapM_ok.mpr
    exact (mapM_ok.mp remade).imp fun row own held =>
      row_proofs_perm maps others rearranged row own held
  · rw [sorted]
    exact (by_identity_perm _ _ same distinct).symm

theorem origin_unique (rows : List (Json F)) (each : List (List FlowProof))
    (made : List.Forall₂ (fun row own => rowProofs maps row = .ok own) rows each)
    (distinct : each.flatten.Nodup) (proof : FlowProof) (left right : Fin rows.length)
    (leftHeld : Contributes maps (rows.get left) proof)
    (rightHeld : Contributes maps (rows.get right) proof) : left = right := by
  have apart := (List.nodup_flatten.mp distinct).2
  have placed (index : Fin rows.length) (held : Contributes maps (rows.get index) proof) :
      ∃ bound : index < each.length, proof ∈ each.get ⟨index, bound⟩ := by
    have bound : index < each.length := made.length_eq ▸ index.2
    obtain ⟨own, ran, inside⟩ := held
    have same := (List.forall₂_iff_get.mp made).2 index index.2 bound
    rw [show rows.get ⟨index, index.2⟩ = rows.get index from rfl, ran] at same
    cases same
    exact ⟨bound, inside⟩
  obtain ⟨leftBound, leftIn⟩ := placed left leftHeld
  obtain ⟨rightBound, rightIn⟩ := placed right rightHeld
  have ordered := List.pairwise_iff_get.mp apart
  apply Fin.ext
  apply Nat.le_antisymm
  · by_contra later
    exact ordered ⟨right, rightBound⟩ ⟨left, leftBound⟩ (Nat.lt_of_not_le later) rightIn leftIn
  · by_contra later
    exact ordered ⟨left, leftBound⟩ ⟨right, rightBound⟩ (Nat.lt_of_not_le later) leftIn rightIn

/-- Normalizing rows loses nothing, merges nothing, trusts no row too much and does not depend on
any order. -/
theorem normalized_rows (rows : List (Json F)) (records : List (Members F))
    (ran : normalizeRecords maps.entries maps.growth maps.canonicalEntryIds rows = .ok records) :
    ∃ proofs, records = proofs.map FlowProof.members ∧ Normalized maps rows proofs := by
  obtain ⟨proofs, normal, listed⟩ := bind_ok.mp ran
  cases listed
  refine ⟨proofs, rfl, ?_⟩
  obtain ⟨few, each, run, distinct, sorted⟩ := (normalize_rows_ok _ _ _).mp normal
  have made := mapM_ok.mp run
  have members (proof : FlowProof) : proof ∈ proofs ↔ proof ∈ each.flatten := by
    rw [sorted, byIdentity, List.mem_insertionSort]
  exact {
    orderFree := fun moved others permuted rearranged =>
      bind_ok.mpr ⟨proofs, batch_perm maps rows moved others proofs permuted rearranged
        normal, rfl⟩
    lossless := by
      intro row held
      obtain ⟨own, inside, rowRan⟩ := related_left made row held
      obtain ⟨proof, first⟩ := List.exists_mem_of_ne_nil own (row_proofs_filled maps row own rowRan)
      constructor
      · exact ⟨proof, (members proof).mpr (List.mem_flatten.mpr ⟨own, inside, first⟩), own, rowRan,
          first⟩
      · intro other contributed
        obtain ⟨again, reran, within⟩ := contributed
        rw [rowRan] at reran
        cases reran
        exact (members other).mpr (List.mem_flatten.mpr ⟨own, inside, within⟩)
    origin := by
      intro proof held
      obtain ⟨own, inside, within⟩ := List.mem_flatten.mp ((members proof).mp held)
      obtain ⟨row, rowHeld, rowRan⟩ := related_right made own inside
      obtain ⟨index, found⟩ := List.mem_iff_get.mp rowHeld
      have contributed : Contributes maps (rows.get index) proof := by
        rw [found]
        exact ⟨own, rowRan, within⟩
      exact ⟨index, contributed, fun other again =>
        origin_unique maps rows each made distinct.of_map proof other index again contributed⟩
    distinct := by
      rw [sorted]
      exact ((List.perm_insertionSort _ _).map _).nodup_iff.mpr distinct
    located := fun row _ proof contributed => contributed_located maps row proof contributed
    conservative := fun row _ proof contributed => contributed_proves maps row proof contributed
    readBack := fun proof _ => members_read proof }

end

open Conclude (sampleGrowthResult)

def sampleMaps : RowMaps where
  entries := [(sampleEntry.entryId, sampleEntry)]
  growth := [(sampleGrowthResult.growthId, sampleGrowthResult)]
  canonicalEntryIds := none
  entriesDistinct := List.nodup_singleton _
  growthDistinct := List.nodup_singleton _
  canonicalDistinct := nofun

def keyRow : FlowRow where
  sourceFile := "src/Cache.java"
  sourceStartLine := 9
  sinkFile := "src/Cache.java"
  sinkStartLine := 12
  attackerTarget := "key"
  attackerSource := "token"
  attackerSink := "token"
  callPath := "Cache.put"
  phaseSequence := "entry > growth"
  flowKind := "data_flow"
  confidence := "proven"
  coverageStatus := "complete"
  coverageNote := "modeled"

/-- Two paths to the sink, one of them through another callable. -/
def pathRows : List PlainJson :=
  [keyRow, { keyRow with callPath := "Cache.load > Cache.put" }].map FlowRow.toDict

theorem path_rows_normal : (normalizeRecords sampleMaps.entries sampleMaps.growth
    sampleMaps.canonicalEntryIds pathRows).isOk = true := by
  decide +kernel

theorem normalized_rows_sample : ∃ proofs, Normalized sampleMaps pathRows proofs := by
  have normal := path_rows_normal
  cases ran : normalizeRecords sampleMaps.entries sampleMaps.growth sampleMaps.canonicalEntryIds
      pathRows with
  | ok records =>
    obtain ⟨proofs, _, all⟩ := normalized_rows sampleMaps pathRows records ran
    exact ⟨proofs, all⟩
  | error raised =>
    rw [ran] at normal
    cases normal

/-- Another candidate on the line of the sample, which an attacker drives by its size. -/
def sizedCandidate : GrowthCandidate :=
  { Growth.sampleCandidate with
    growthId := "growth:b65ac2aa5b5ab5c7173df480"
    demandInputs := [⟨⟨"token", Entries.token_valid⟩, .size⟩]
    demandsRequired := by decide
    demandsBounded := by decide
    demandsOrdered := List.pairwise_singleton _ _
    idCanonical := by
      rw [identifier_codes]
      decide +kernel }

def sizedResult : VerifiedGrowthResult :=
  { sampleGrowthResult with
    growthId := sizedCandidate.growthId
    candidate := some sizedCandidate
    growthIdStarts := sizedCandidate.growth_id_starts
    candidateMatches := by
      rintro _ ⟨rfl⟩
      rfl }

theorem sized_id_differs : sizedResult.growthId ≠ sampleGrowthResult.growthId := by
  decide

def sizedMaps : RowMaps where
  entries := sampleMaps.entries
  growth := [(sampleGrowthResult.growthId, sampleGrowthResult), (sizedResult.growthId, sizedResult)]
  canonicalEntryIds := none
  entriesDistinct := sampleMaps.entriesDistinct
  growthDistinct := by
    apply List.nodup_cons.mpr ⟨_, List.nodup_singleton _⟩
    intro inside
    exact sized_id_differs (List.mem_singleton.mp inside).symm
  canonicalDistinct := nofun

theorem sized_row_normal : (normalizeRecords sizedMaps.entries sizedMaps.growth
    sizedMaps.canonicalEntryIds [keyRow.toDict]).isOk = true := by
  decide +kernel

theorem sized_site : sizedCandidate.site = Growth.sampleCandidate.site := by
  unfold sizedCandidate
  rfl

theorem sized_growth_mem (result : VerifiedGrowthResult) :
    result ∈ sizedMaps.growth.map Prod.snd ↔ result = sampleGrowthResult ∨ result = sizedResult := by
  simp only [sizedMaps, List.map_cons, List.map_nil, List.mem_cons, List.not_mem_nil, or_false]

theorem sized_sink (places : RowPlaces) (result : VerifiedGrowthResult) (candidate : GrowthCandidate)
    (inside : result ∈ sizedMaps.growth.map Prod.snd) (known : result.candidate = some candidate)
    (sink : sinksAt places candidate) : sinksAt places Growth.sampleCandidate := by
  rcases (sized_growth_mem result).mp inside with same | same
  · rw [same] at known
    have own : Growth.sampleCandidate = candidate := Option.some.inj known
    rw [own]
    exact sink
  · rw [same] at known
    have own : sizedCandidate = candidate := Option.some.inj known
    rw [sinksAt, ← sized_site, own]
    exact sink

/-- A proof's growth need not be the only one at the sink. -/
theorem sink_location_shared : ¬ ∀ (maps : RowMaps) (rows : List PlainJson)
    (records : List (Members Empty)),
    normalizeRecords maps.entries maps.growth maps.canonicalEntryIds rows = .ok records →
    ∀ row ∈ rows, ∀ proof, Contributes maps row proof →
      ∃ members places, row = .obj members ∧ placesOf members = .ok places ∧
        ∃ result ∈ maps.growth.map Prod.snd, result.growthId = proof.growthId ∧
          ∀ other ∈ maps.growth.map Prod.snd,
            (∃ candidate, other.candidate = some candidate ∧ sinksAt places candidate) →
              other = result := by
  intro alone
  have normal := sized_row_normal
  cases ran : normalizeRecords sizedMaps.entries sizedMaps.growth sizedMaps.canonicalEntryIds
      [keyRow.toDict] with
  | error raised =>
    rw [ran] at normal
    cases normal
  | ok records =>
    obtain ⟨proofs, rowsRan, _⟩ := bind_ok.mp ran
    obtain ⟨_, each, made, _⟩ := (normalize_rows_ok _ _ _).mp rowsRan
    have first := List.mem_singleton_self keyRow.toDict
    obtain ⟨own, _, rowRan⟩ := related_left (mapM_ok.mp made) _ first
    obtain ⟨proof, inside⟩ := List.exists_mem_of_ne_nil own (row_proofs_filled _ _ own rowRan)
    have held : Contributes sizedMaps keyRow.toDict proof := ⟨own, rowRan, inside⟩
    obtain ⟨members, places, same, located⟩ := contributed_located sizedMaps _ proof held
    obtain ⟨others, found, again, placed, result, _, _, only⟩ := alone _ _ _ ran _ first proof held
    cases Json.obj.inj (same.symm.trans again)
    cases Except.ok.inj (located.placed.symm.trans placed)
    obtain ⟨driven, within, ⟨candidate, known, sink, _⟩, _⟩ := located.growth
    have sinks := sized_sink places driven candidate within known sink
    have sample := only sampleGrowthResult ((sized_growth_mem _).mpr (Or.inl rfl))
      ⟨Growth.sampleCandidate, rfl, sinks⟩
    rw [sinksAt, ← sized_site] at sinks
    have sized := only sizedResult ((sized_growth_mem _).mpr (Or.inr rfl))
      ⟨sizedCandidate, rfl, sinks⟩
    exact sized_id_differs (congrArg VerifiedGrowthResult.growthId (sized.trans sample.symm))

end DosWeb.Flows
