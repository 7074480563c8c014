import DosWeb.Benchmark.Evaluator

/-!
What the open-discovery evaluation accepts, with the order of its inputs taken out: what each
record reads as, which identities stand apart, and that every identifier has one repository.
-/

namespace DosWeb.Benchmark

open Library.JsonRecord Library.JsonValue Library.Owners

variable {F : Type}

def entryOf (key : String) : Json F → Option (Entry F)
  | .obj record =>
    match recordScope record, filledText (get record key) with
    | .ok scope, some value => some ⟨scope, value, record⟩
    | _, _ => none
  | _ => none

def entryKeys (key : String) (entry : Entry F) : Owners := [((key, entry.id), entry.scope)]

theorem claim_analysis_iff (owners : Owners) (consistent : Consistent owners) (key : String)
    (value : Json F) (scope text : String) (later : Owners) :
    claimAnalysisId owners key value scope = .ok (text, later) ↔
      filledText value = some text ∧ later = owners ++ [((key, text), scope)] ∧
        Consistent (owners ++ [((key, text), scope)]) := by
  unfold claimAnalysisId
  cases filled : filledText value with
  | none => simp
  | some held =>
    have claims := claim_iff owners consistent (key, held) scope
    simp only
    cases claimed : claim owners (key, held) scope with
    | none =>
      have refused : ¬ Consistent (owners ++ [((key, held), scope)]) := by
        intro consistent'
        have granted := (claims _).mpr ⟨rfl, consistent'⟩
        rw [claimed] at granted
        cases granted
      simp only [reduceCtorEq, Option.some.injEq, false_iff]
      intro ⟨same, _, consistent'⟩
      exact refused (same ▸ consistent')
    | some granted =>
      obtain ⟨rfl, consistent'⟩ := (claims granted).mp claimed
      simp only [Except.ok.injEq, Prod.mk.injEq, Option.some.injEq]
      constructor
      · intro ⟨same, appended⟩
        subst same
        exact ⟨rfl, appended.symm, consistent'⟩
      · intro ⟨same, appended, _⟩
        subst same
        exact ⟨rfl, appended.symm⟩

theorem find_none (index : List (Entry F)) (scope id : String) :
    (find index scope id).isNone = true ↔ (scope, id) ∉ index.map Entry.identity := by
  simp [find, Entry.identity]

theorem index_collects (key : String) :
    Collects (indexRecord (F := F) key) (entryOf key) Entry.identity (entryKeys key) := by
  intro kept owners json result consistent
  cases json with
  | obj record =>
    simp only [indexRecord, bind_ok, Prod.exists, claim_analysis_iff owners consistent,
      require_ok, find_none, pure_ok]
    constructor
    · rintro ⟨scope, inScope, value, later, ⟨filled, same, consistent'⟩, _, fresh, shaped⟩
      subst same
      refine ⟨⟨scope, value, record⟩, ?_, fresh, shaped.symm, consistent'⟩
      simp only [entryOf, inScope, filled]
    · rintro ⟨entry, read, fresh, shaped, consistent'⟩
      simp only [entryOf] at read
      split at read
      · rename_i scope value inScope filled
        cases read
        exact ⟨scope, inScope, value, _, ⟨filled, rfl, consistent'⟩, (), fresh, shaped.symm⟩
      · cases read
  | _ => simp [indexRecord, entryOf]

def growthKeys (entry : Entry F) : Owners := entryKeys "growth_id" entry

/-- The growth that a proof is about, where the proof is of a known kind. -/
def provenGrowth (proof : Entry F) : Option (Entry F) :=
  match filledText (get proof.record "growth_id"),
      named negativeProofKinds NegativeProofKind.text (get proof.record "kind") with
  | some growthId, some _ => some ⟨proof.scope, growthId, proof.record⟩
  | _, _ => none

theorem proof_claims : Claims (checkProof (F := F)) provenGrowth growthKeys := by
  intro owners proof later consistent
  simp only [checkProof, bind_ok, Prod.exists, claim_analysis_iff owners consistent, require_ok,
    pure_ok, Option.isSome_iff_exists]
  constructor
  · rintro ⟨growthId, _, ⟨filled, same, consistent'⟩, _, ⟨kind, known⟩, shaped⟩
    subst same
    refine ⟨⟨proof.scope, growthId, proof.record⟩, ?_, shaped.symm, consistent'⟩
    simp only [provenGrowth, filled, known]
  · rintro ⟨entry, read, shaped, consistent'⟩
    unfold provenGrowth at read
    split at read
    · rename_i growthId kind filled known
      cases read
      exact ⟨growthId, _, ⟨filled, rfl, consistent'⟩, (), ⟨kind, known⟩, shaped.symm⟩
    · cases read

/-- A disposition under its growth, where its references are right. -/
def placed (proofById : List (Entry F)) (disposition : Entry F) : Option (Entry F) :=
  match statusOf disposition.record, strictIdList disposition.record "negative_proof_ids" true,
      filledText (get disposition.record "growth_id") with
  | some status, .ok proofIds, some growthId =>
    if checkReferences proofById disposition.scope growthId status proofIds = .ok () then
      some ⟨disposition.scope, growthId, disposition.record⟩
    else none
  | _, _, _ => none

theorem place_collects (proofById : List (Entry F)) :
    Collects (placeDisposition proofById) (placed proofById) Entry.identity growthKeys := by
  intro kept owners disposition result consistent
  unfold placeDisposition
  cases stated : statusOf disposition.record with
  | none => simp [placed, stated]
  | some status =>
    simp only [bind_ok, Prod.exists, claim_analysis_iff owners consistent, require_ok, find_none,
      pure_ok]
    constructor
    · rintro ⟨proofIds, listed, growthId, later, ⟨filled, same, consistent'⟩, _, fresh, _,
        referred, shaped⟩
      subst same
      refine ⟨⟨disposition.scope, growthId, disposition.record⟩, ?_, fresh, shaped.symm,
        consistent'⟩
      simp only [placed, stated, listed, filled, referred, if_true]
    · rintro ⟨entry, read, fresh, shaped, consistent'⟩
      simp only [placed, stated] at read
      split at read
      · rename_i status' proofIds growthId same listed filled
        cases same
        split at read
        · rename_i referred
          cases read
          exact ⟨proofIds, listed, growthId, _, ⟨filled, rfl, consistent'⟩, (), fresh, (),
            referred, shaped.symm⟩
        · cases read
      · cases read

/-- The growth that a finding is of, where a disposition of it agrees with the verdict. -/
def boundGrowth (dispositionsByGrowth : List (Entry F)) (finding : Entry F) : Option (Entry F) :=
  match filledText (get finding.record "growth_id"), verdictOf finding.record with
  | some growthId, some verdict =>
    match find dispositionsByGrowth finding.scope growthId with
    | some disposition =>
      if (statusOf disposition.record = some .formalEligible ∨
            statusOf disposition.record = some .gapEligible) ∧
          (statusOf disposition.record = some .gapEligible → verdict = .staticUnknown) then
        some ⟨finding.scope, growthId, finding.record⟩
      else none
    | none => none
  | _, _ => none

theorem finding_claims (dispositionsByGrowth : List (Entry F)) :
    Claims (checkFinding dispositionsByGrowth) (boundGrowth dispositionsByGrowth) growthKeys := by
  intro owners finding later consistent
  simp only [checkFinding, bind_ok, Prod.exists, claim_analysis_iff owners consistent]
  constructor
  · rintro ⟨growthId, _, ⟨filled, same, consistent'⟩, rest⟩
    subst same
    cases verdict : verdictOf finding.record with
    | none => simp [verdict] at rest
    | some verdict' =>
      simp only [verdict] at rest
      cases found : find dispositionsByGrowth finding.scope growthId with
      | none => simp [found] at rest
      | some disposition =>
        simp only [found, bind_ok, require_ok, decide_eq_true_eq, pure_ok] at rest
        obtain ⟨_, eligible, _, gap, shaped⟩ := rest
        refine ⟨⟨finding.scope, growthId, finding.record⟩, ?_, shaped.symm, consistent'⟩
        simp only [boundGrowth, filled, verdict, found]
        exact if_pos ⟨eligible, gap⟩
  · rintro ⟨entry, read, shaped, consistent'⟩
    unfold boundGrowth at read
    split at read
    · rename_i growthId verdict filled verdictIs
      split at read
      · rename_i disposition found
        split at read
        · rename_i agrees
          cases read
          refine ⟨growthId, _, ⟨filled, rfl, consistent'⟩, ?_⟩
          simp only [verdictIs, found, bind_ok, require_ok, decide_eq_true_eq, pure_ok]
          exact ⟨(), agrees.1, (), agrees.2, shaped.symm⟩
        · cases read
      · cases read
    · cases read

section

theorem filled_items (items : List (Json F)) (values : List String)
    (read : items.mapM filledText = some values) : "" ∉ values := by
  induction items generalizing values with
  | nil =>
    cases read
    exact List.not_mem_nil
  | cons item items ih =>
    simp only [List.mapM_cons, bind, Option.bind_eq_some_iff, pure, Option.some.injEq] at read
    obtain ⟨value, own, others, rest, same⟩ := read
    subst same
    intro member
    rcases List.mem_cons.mp member with empty | later
    · exact (filled_text item value own).2 empty.symm
    · exact ih others rest later

variable (record : Members F)

theorem strict_filled (key : String) (required : Bool) (values : List String)
    (read : strictIdList record key required = .ok values) : "" ∉ values := by
  unfold strictIdList at read
  split at read
  · simp only [bind_ok, require_ok, pure_ok] at read
    obtain ⟨_, _, same⟩ := read
    subst same
    exact List.not_mem_nil
  · split at read
    · rename_i listed
      simp only [bind_ok, require_ok, pure_ok] at read
      obtain ⟨_, _, same⟩ := read
      subst same
      exact filled_items _ _ listed
    · cases read
  · cases read

theorem nested_filled (containerKey key : String) (values : List String)
    (read : optionalNestedId record containerKey key = .ok values) : "" ∉ values := by
  unfold optionalNestedId at read
  split at read
  · cases read
    exact List.not_mem_nil
  · split at read
    · cases read
      exact List.not_mem_nil
    · split at read
      · rename_i text filled
        cases read
        intro member
        exact (filled_text _ _ filled).2 (List.mem_singleton.mp member).symm
      · cases read
  · cases read

theorem candidate_filled (containerKey key : String) (values : List String)
    (read : candidateNestedId record containerKey key = .ok values) : "" ∉ values := by
  unfold candidateNestedId at read
  split at read
  · cases read
    exact List.not_mem_nil
  · exact nested_filled _ _ _ _ read
  · cases read

theorem carriers_filled (carriers : List Carrier) (read : seedIdCarriers record = .ok carriers) :
    "" ∉ carriers.flatMap Carrier.findingIds ∧ "" ∉ carriers.flatMap Carrier.growthIds := by
  simp only [seedIdCarriers, bind_ok, pure_ok] at read
  obtain ⟨matchedFindings, one, matchedGrowths, two, chainFinding, three, chainGrowth, four,
    candidateFinding, five, candidateGrowth, six, same⟩ := read
  subst same
  have first := strict_filled _ _ _ _ one
  have second := strict_filled _ _ _ _ two
  have third := nested_filled _ _ _ _ three
  have fourth := nested_filled _ _ _ _ four
  have fifth := candidate_filled _ _ _ _ five
  have sixth := candidate_filled _ _ _ _ six
  constructor
  · intro member
    obtain ⟨carrier, inside, named⟩ := List.mem_flatMap.mp member
    have listed := List.mem_of_mem_filter inside
    simp only [List.mem_cons, List.not_mem_nil, or_false] at listed
    rcases listed with rfl | rfl | rfl
    · exact first named
    · exact third named
    · exact fifth named
  · intro member
    obtain ⟨carrier, inside, named⟩ := List.mem_flatMap.mp member
    have listed := List.mem_of_mem_filter inside
    simp only [List.mem_cons, List.not_mem_nil, or_false] at listed
    rcases listed with rfl | rfl | rfl
    · exact second named
    · exact fourth named
    · exact sixth named

def idKeys (key scope : String) (values : List String) : Owners :=
  values.map fun value => ((key, value), scope)

theorem claim_all_iff (key scope : String) (owners : Owners) (consistent : Consistent owners)
    (values : List String) (filled : "" ∉ values) (later : Owners) :
    claimAll key scope owners values = .ok later ↔
      later = owners ++ idKeys key scope values ∧ Consistent (owners ++ idKeys key scope values) := by
  unfold claimAll
  refine (claims_run _ (fun value => if value = "" then none else some value)
    (fun value => [((key, value), scope)]) ?_ values owners consistent later).trans ?_
  · intro owners value result consistent
    simp only [bind_ok, Prod.exists, claim_analysis_iff owners consistent, filledText, pure_ok]
    constructor
    · rintro ⟨text, _, ⟨read, same, consistent'⟩, shaped⟩
      subst same
      exact ⟨text, read, shaped.symm, consistent'⟩
    · rintro ⟨text, read, shaped, consistent'⟩
      exact ⟨text, _, ⟨read, rfl, consistent'⟩, shaped.symm⟩
  have reads (texts : List String) :
      values.map (fun value => if value = "" then none else some value) = texts.map some ↔
        texts = values := by
    have all : values.map (fun value => if value = "" then none else some value) =
        values.map some := by
      apply List.map_congr_left
      intro value member
      rw [if_neg]
      intro empty
      exact filled (empty ▸ member)
    rw [all]
    constructor
    · intro same
      exact (List.map_injective_iff.mpr (Option.some_injective _) same).symm
    · intro same
      rw [same]
  simp only [reads, exists_eq_left]
  have single : values.flatMap (fun value => [((key, value), scope)]) = idKeys key scope values := by
    rw [idKeys, List.map_eq_flatMap]
  rw [single]

/-- The checks on what a seed names that look at the findings. -/
def Seed.agrees (seed : Seed) (carriers : List Carrier) (findingById : List (Entry F)) : Prop :=
  validateSeedCarriers carriers seed.scope findingById = .ok () ∧
    ((ordinaryMatchedVerdict seed.status).all fun expected =>
      (seed.findingIds.filterMap (find findingById seed.scope)).all fun finding =>
        isText expected.text (get finding.record "verdict")) = true ∧
      (seed.findingIds = [] ∨ seed.growthIds = [] ∨
        within ((seed.findingIds.filterMap (find findingById seed.scope)).map growthIdOf)
          seed.growthIds = true)

instance (seed : Seed) (carriers : List Carrier) (findingById : List (Entry F)) :
    Decidable (seed.agrees carriers findingById) := by
  unfold Seed.agrees
  infer_instance

def seedFrom (scope seedId : String) (status : SeedStatus) (carriers : List Carrier) : Seed where
  scope := scope
  seedId := seedId
  status := status
  findingIds := (carriers.flatMap Carrier.findingIds).dedup
  growthIds := (carriers.flatMap Carrier.growthIds).dedup

def seedOf (findingById : List (Entry F)) : Json F → Option Seed
  | .obj record =>
    match recordScope record, seedIdentity record,
        named seedStatuses SeedStatus.text (get record "status"), seedIdCarriers record with
    | .ok scope, .ok seedId, some status, .ok carriers =>
      let seed := seedFrom scope seedId status carriers
      if seed.agrees carriers findingById ∧
          (status.links = true ∨ seed.findingIds = [] ∧ seed.growthIds = []) then
        some seed
      else none
    | _, _, _, _ => none
  | _ => none

def seedKeys (seed : Seed) : Owners :=
  idKeys "finding_id" seed.scope seed.findingIds ++ idKeys "growth_id" seed.scope seed.growthIds

theorem seed_collects (findingById : List (Entry F)) :
    Collects (acceptSeed findingById) (seedOf findingById) Seed.identity seedKeys := by
  intro kept owners json result consistent
  cases json with
  | obj record =>
    have fresh (scope seedId : String) :
        (kept.all fun seed => seed.identity ≠ (scope, seedId)) = true ↔
          (scope, seedId) ∉ kept.map Seed.identity := by
      simp only [List.all_eq_true, decide_eq_true_eq, List.mem_map, not_exists, not_and]
    simp only [acceptSeed, bind_ok, require_ok, fresh]
    constructor
    · rintro ⟨scope, inScope, seedId, identified, _, apart, rest⟩
      cases stated : named seedStatuses SeedStatus.text (get record "status") with
      | none => simp [stated] at rest
      | some status =>
        simp only [stated, bind_ok, require_ok, decide_eq_true_eq, pure_ok] at rest
        obtain ⟨carriers, carried, _, valid, _, live, middle, findingsClaimed, later,
          growthsClaimed, _, verdicts, _, chains, shaped⟩ := rest
        obtain ⟨findingsFilled, growthsFilled⟩ := carriers_filled record carriers carried
        obtain ⟨rfl, consistent'⟩ := (claim_all_iff _ _ _ consistent _
          (fun member => findingsFilled (List.mem_dedup.mp member)) _).mp findingsClaimed
        obtain ⟨rfl, consistent''⟩ := (claim_all_iff _ _ _ consistent' _
          (fun member => growthsFilled (List.mem_dedup.mp member)) _).mp growthsClaimed
        refine ⟨seedFrom scope seedId status carriers, ?_, apart, ?_, ?_⟩
        · simp only [seedOf, inScope, identified, stated, carried]
          exact if_pos ⟨⟨valid, verdicts, chains⟩, live⟩
        · rw [← shaped, List.append_assoc]
          rfl
        · rw [List.append_assoc] at consistent''
          exact consistent''
    · rintro ⟨seed, read, apart, shaped, consistent'⟩
      simp only [seedOf] at read
      split at read
      · rename_i scope seedId status carriers inScope identified stated carried
        split at read
        · rename_i agrees
          cases read
          obtain ⟨findingsFilled, growthsFilled⟩ := carriers_filled record carriers carried
          refine ⟨scope, inScope, seedId, identified, (), apart, ?_⟩
          simp only [stated, bind_ok, require_ok, decide_eq_true_eq, pure_ok]
          rw [seedKeys, ← List.append_assoc] at consistent' shaped
          have findingsHeld := consistent_left _ _ consistent'
          refine ⟨carriers, carried, (), agrees.1.1, (), agrees.2, _,
            (claim_all_iff _ _ _ consistent _
              (fun member => findingsFilled (List.mem_dedup.mp member)) _).mpr
              ⟨rfl, findingsHeld⟩, _, (claim_all_iff _ _ _ findingsHeld _
              (fun member => growthsFilled (List.mem_dedup.mp member)) _).mpr
              ⟨rfl, consistent'⟩, (), agrees.1.2.1, (), agrees.1.2.2, ?_⟩
          rw [shaped]
          rfl
        · cases read
      · cases read
  | _ => simp [acceptSeed, seedOf]

end

/-- What the inputs read as when all of them are accepted. -/
structure Reading (findings dispositions negativeProofs seedMatches : List (Json F))
    (findingById dispositionById proofById growths : List (Entry F)) (seeds : List Seed) :
    Prop where
  findingsRead : findings.map (entryOf "finding_id") = findingById.map some
  findingsApart : (findingById.map Entry.identity).Nodup
  dispositionsRead : dispositions.map (entryOf "disposition_id") = dispositionById.map some
  dispositionsApart : (dispositionById.map Entry.identity).Nodup
  proofsRead : negativeProofs.map (entryOf "negative_proof_id") = proofById.map some
  proofsApart : (proofById.map Entry.identity).Nodup
  placedRead : dispositionById.map (placed proofById) = growths.map some
  placedApart : (growths.map Entry.identity).Nodup
  referenced : ∀ proof ∈ proofById, checkReferenced growths proof = .ok ()
  seedsRead : seedMatches.map (seedOf findingById) = seeds.map some
  seedsApart : (seeds.map Seed.identity).Nodup
  owned : ∃ proven bound : List (Entry F), proofById.map provenGrowth = proven.map some ∧
      findingById.map (boundGrowth growths) = bound.map some ∧
        Consistent (findingById.flatMap (entryKeys "finding_id") ++
          dispositionById.flatMap (entryKeys "disposition_id") ++
          proofById.flatMap (entryKeys "negative_proof_id") ++ proven.flatMap growthKeys ++
          growths.flatMap growthKeys ++ bound.flatMap growthKeys ++ seeds.flatMap seedKeys)

theorem forM_ok {α : Type} (step : α → Checked Unit) (items : List α) (nothing : Unit) :
    items.forM step = .ok nothing ↔ ∀ item ∈ items, step item = .ok () := by
  induction items with
  | nil => exact ⟨nofun, fun _ => rfl⟩
  | cons item items ih =>
    have unfolded : (item :: items).forM step = (step item >>= fun _ => items.forM step) := rfl
    rw [unfolded, bind_ok, List.forall_mem_cons]
    constructor
    · intro ⟨_, own, rest⟩
      exact ⟨own, ih.mp rest⟩
    · intro ⟨own, rest⟩
      exact ⟨(), own, ih.mpr rest⟩

theorem index_ok (records : List (Json F)) (key : String) (owners : Owners)
    (consistent : Consistent owners) (result : List (Entry F) × Owners) :
    recordIndex records key owners = .ok result ↔
      ∃ entries, records.map (entryOf key) = entries.map some ∧ (entries.map Entry.identity).Nodup ∧
          result = (entries, owners ++ entries.flatMap (entryKeys key)) ∧
            Consistent (owners ++ entries.flatMap (entryKeys key)) :=
  collects_run _ _ _ _ (index_collects key) records [] owners consistent List.nodup_nil result

theorem evaluate_ok (findings dispositions negativeProofs seedMatches : List (Json F))
    (result : OpenDiscovery) :
    evaluateOpenDiscovery findings dispositions negativeProofs seedMatches = .ok result ↔
      ∃ findingById dispositionById proofById growths seeds,
        Reading findings dispositions negativeProofs seedMatches findingById dispositionById
          proofById growths seeds ∧ result = discovered (allRows findingById growths seeds) := by
  simp only [evaluateOpenDiscovery, bind_ok, Prod.exists, pure_ok, forM_ok]
  constructor
  · intro ⟨findingById, _, one, dispositionById, _, two, proofById, _, three, _, four, growths, _,
      five, _, referenced, _, six, seeds, _, seven, shaped⟩
    obtain ⟨_, findings', apart1, same1, held1⟩ := (index_ok _ _ _ consistent_nil _).mp one
    cases same1
    obtain ⟨_, dispositions', apart2, same2, held2⟩ := (index_ok _ _ _ held1 _).mp two
    cases same2
    obtain ⟨_, proofs', apart3, same3, held3⟩ := (index_ok _ _ _ held2 _).mp three
    cases same3
    obtain ⟨proven, proven', same4, held4⟩ := (claims_run _ _ _ proof_claims _ _ held3 _).mp four
    subst same4
    obtain ⟨_, placed', apart5, same5, held5⟩ := (collects_run _ _ _ _
      (place_collects proofById) _ [] _ held4 List.nodup_nil _).mp five
    cases same5
    obtain ⟨bound, bound', same6, held6⟩ := (claims_run _ _ _ (finding_claims _) _ _ held5 _).mp six
    subst same6
    obtain ⟨_, seeds', apart7, same7, held7⟩ := (collects_run _ _ _ _
      (seed_collects findingById) _ [] _ held6 List.nodup_nil _).mp seven
    cases same7
    refine ⟨findingById, dispositionById, proofById, _, _, ⟨findings', apart1, dispositions',
      apart2, proofs', apart3, placed', apart5, referenced, seeds', apart7, proven, bound, proven',
      bound', held7⟩, shaped.symm⟩
  · intro ⟨findingById, dispositionById, proofById, growths, seeds, reading, shaped⟩
    obtain ⟨proven, bound, proven', bound', held7⟩ := reading.owned
    have held6 := consistent_left _ _ held7
    have held5 := consistent_left _ _ held6
    have held4 := consistent_left _ _ held5
    have held3 := consistent_left _ _ held4
    have held2 := consistent_left _ _ held3
    have held1 := consistent_left _ _ held2
    exact ⟨findingById, _, (index_ok _ _ _ consistent_nil _).mpr
        ⟨_, reading.findingsRead, reading.findingsApart, rfl, held1⟩,
      dispositionById, _, (index_ok _ _ _ held1 _).mpr
        ⟨_, reading.dispositionsRead, reading.dispositionsApart, rfl, held2⟩,
      proofById, _, (index_ok _ _ _ held2 _).mpr
        ⟨_, reading.proofsRead, reading.proofsApart, rfl, held3⟩,
      _, (claims_run _ _ _ proof_claims _ _ held3 _).mpr ⟨proven, proven', rfl, held4⟩,
      growths, _, (collects_run _ _ _ _ (place_collects proofById) _ [] _ held4 List.nodup_nil
        _).mpr ⟨growths, reading.placedRead, reading.placedApart, rfl, held5⟩,
      (), reading.referenced,
      _, (claims_run _ _ _ (finding_claims _) _ _ held5 _).mpr ⟨bound, bound', rfl, held6⟩,
      seeds, _, (collects_run _ _ _ _ (seed_collects findingById) _ [] _ held6 List.nodup_nil
        _).mpr ⟨seeds, reading.seedsRead, reading.seedsApart, rfl, held7⟩, shaped.symm⟩

end DosWeb.Benchmark
