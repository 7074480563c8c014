import DosWeb.Benchmark.Acceptance
import DosWeb.Library.Grouping
import Mathlib.Algebra.GroupWithZero.Nat

/-!
The accounts of an open-discovery evaluation: they do not depend on the order of the inputs, and
every finding, every disposition and every known seed is accounted for once.
-/

namespace DosWeb.Benchmark

open Library.JsonRecord Library.JsonValue Library.OrderedSet Library.Owners

variable {F : Type}

section

theorem find_some (index : List (Entry F)) (apart : (index.map Entry.identity).Nodup)
    (scope id : String) (entry : Entry F) :
    find index scope id = some entry ↔ entry ∈ index ∧ entry.identity = (scope, id) := by
  constructor
  · intro found
    exact ⟨List.mem_of_find?_eq_some found, by simpa using List.find?_some found⟩
  · intro ⟨member, same⟩
    have held : (find index scope id).isSome = true := by
      rw [← Bool.not_eq_false, Option.isSome_eq_false_iff, find_none, not_not]
      exact List.mem_map.mpr ⟨entry, member, same⟩
    obtain ⟨other, found⟩ := Option.isSome_iff_exists.mp held
    have otherIn := List.mem_of_find?_eq_some found
    have otherSame : other.identity = (scope, id) := by simpa using List.find?_some found
    rw [found, List.inj_on_of_nodup_map apart otherIn member (otherSame.trans same.symm)]

theorem find_perm (index rearranged : List (Entry F)) (permuted : rearranged.Perm index)
    (apart : (index.map Entry.identity).Nodup) : find rearranged = find index := by
  have apart' := ((permuted.map Entry.identity).nodup_iff).mpr apart
  funext scope id
  apply Option.ext
  intro entry
  rw [find_some _ apart, find_some _ apart', permuted.mem_iff]

variable {findings dispositions negativeProofs seedMatches : List (Json F)}
variable {findingById dispositionById proofById growths : List (Entry F)} {seeds : List Seed}

section

variable (rearranged : List (Entry F))

theorem placed_perm (same : find rearranged = find proofById) :
    placed rearranged = placed proofById := by
  funext disposition
  have references : checkReference rearranged = checkReference proofById := by
    funext scope growthId proofId
    rw [checkReference, checkReference, same]
  have all : checkReferences rearranged = checkReferences proofById := by
    funext scope growthId status proofIds
    rw [checkReferences, checkReferences, references]
  rw [placed, placed, all]

theorem bound_perm (same : find rearranged = find growths) :
    boundGrowth rearranged = boundGrowth growths := by
  funext finding
  rw [boundGrowth, boundGrowth, same]

theorem agrees_perm (same : find rearranged = find findingById) (seed : Seed)
    (carriers : List Carrier) :
    seed.agrees carriers rearranged ↔ seed.agrees carriers findingById := by
  have checks : checkCarrier rearranged = checkCarrier findingById := by
    funext scope carrier
    rw [checkCarrier, checkCarrier, same]
  have valid : validateSeedCarriers carriers seed.scope rearranged =
      validateSeedCarriers carriers seed.scope findingById := by
    rw [validateSeedCarriers, validateSeedCarriers, checks]
  rw [Seed.agrees, Seed.agrees, valid, same]

theorem seed_of_perm (same : find rearranged = find findingById) :
    seedOf rearranged = seedOf findingById := by
  funext json
  cases json with
  | obj record => simp only [seedOf, agrees_perm rearranged same]
  | _ => rfl

theorem checked_perm (permuted : rearranged.Perm growths) (proof : Entry F) :
    checkReferenced rearranged proof = checkReferenced growths proof := by
  rw [checkReferenced, checkReferenced, (permuted.flatMap_right references).count_eq]

end

theorem Reading.rearranged
    (reading : Reading findings dispositions negativeProofs seedMatches findingById dispositionById
      proofById growths seeds) (findings' dispositions' negativeProofs' seedMatches' : List (Json F))
    (permuted1 : findings'.Perm findings) (permuted2 : dispositions'.Perm dispositions)
    (permuted3 : negativeProofs'.Perm negativeProofs) (permuted4 : seedMatches'.Perm seedMatches) :
    ∃ findingById' dispositionById' proofById' growths' seeds',
      Reading findings' dispositions' negativeProofs' seedMatches' findingById' dispositionById'
        proofById' growths' seeds' ∧ findingById'.Perm findingById ∧ growths'.Perm growths ∧
          seeds'.Perm seeds := by
  obtain ⟨findingById', read1, perm1⟩ := reads_perm _ _ _ _ permuted1 reading.findingsRead
  obtain ⟨dispositionById', read2, perm2⟩ := reads_perm _ _ _ _ permuted2 reading.dispositionsRead
  obtain ⟨proofById', read3, perm3⟩ := reads_perm _ _ _ _ permuted3 reading.proofsRead
  obtain ⟨growths', read4, perm4⟩ := reads_perm _ _ _ _ perm2 reading.placedRead
  obtain ⟨seeds', read5, perm5⟩ := reads_perm _ _ _ _ permuted4 reading.seedsRead
  obtain ⟨proven, bound, provenRead, boundRead, consistent⟩ := reading.owned
  obtain ⟨proven', read6, perm6⟩ := reads_perm _ _ _ _ perm3 provenRead
  obtain ⟨bound', read7, perm7⟩ := reads_perm _ _ _ _ perm1 boundRead
  have sameFindings := find_perm _ _ perm1 reading.findingsApart
  have sameProofs := find_perm _ _ perm3 reading.proofsApart
  have sameGrowths := find_perm _ _ perm4 reading.placedApart
  refine ⟨findingById', dispositionById', proofById', growths', seeds', ?_, perm1, perm4, perm5⟩
  constructor
  · exact read1
  · exact (perm1.map _).nodup_iff.mpr reading.findingsApart
  · exact read2
  · exact (perm2.map _).nodup_iff.mpr reading.dispositionsApart
  · exact read3
  · exact (perm3.map _).nodup_iff.mpr reading.proofsApart
  · rw [placed_perm proofById' sameProofs]
    exact read4
  · exact (perm4.map _).nodup_iff.mpr reading.placedApart
  · intro proof member
    rw [checked_perm growths' perm4]
    exact reading.referenced proof (perm3.mem_iff.mp member)
  · rw [seed_of_perm findingById' sameFindings]
    exact read5
  · exact (perm5.map _).nodup_iff.mpr reading.seedsApart
  · refine ⟨proven', bound', read6, ?_, ?_⟩
    · rw [bound_perm growths' sameGrowths]
      exact read7
    · apply consistent_of_subset _ _ _ consistent
      apply List.Perm.subset
      exact (((((((perm1.flatMap_right _).append (perm2.flatMap_right _)).append
        (perm3.flatMap_right _)).append (perm6.flatMap_right _)).append
          (perm4.flatMap_right _)).append (perm7.flatMap_right _)).append (perm5.flatMap_right _))

theorem linking_perm (index index' : List (Entry F)) (seeds seeds' : List Seed)
    (same : find index' = find index) (permuted : seeds'.Perm seeds) (ids : Seed → List String)
    (scope id : String) :
    (linking seeds' ids index' scope id).Perm (linking seeds ids index scope id) := by
  rw [linking, linking, same]
  split
  · exact (permuted.filter _).map _
  · exact List.Perm.refl _

theorem make_row_perm (findingById' growths' : List (Entry F)) (seeds' : List Seed)
    (sameFindings : find findingById' = find findingById)
    (sameGrowths : find growths' = find growths) (permuted : seeds'.Perm seeds) :
    makeRow findingById' growths' seeds' = makeRow findingById growths seeds := by
  funext localId scope growthId finding disposition
  have linked : sortedSet
      (linking seeds' Seed.findingIds findingById' scope (orNone (finding.map Entry.id)) ++
        linking seeds' Seed.growthIds growths' scope growthId) = sortedSet
      (linking seeds Seed.findingIds findingById scope (orNone (finding.map Entry.id)) ++
        linking seeds Seed.growthIds growths scope growthId) := by
    apply sortedSet_congr
    intro seedId
    exact ((linking_perm _ _ _ _ sameFindings permuted _ _ _).append
      (linking_perm _ _ _ _ sameGrowths permuted _ _ _)).mem_iff
  rw [makeRow, makeRow, linked]

theorem all_rows_perm (findingById' growths' : List (Entry F)) (seeds' : List Seed)
    (findingsApart : (findingById.map Entry.identity).Nodup)
    (growthsApart : (growths.map Entry.identity).Nodup) (perm1 : findingById'.Perm findingById)
    (perm2 : growths'.Perm growths) (perm3 : seeds'.Perm seeds) :
    (allRows findingById' growths' seeds').Perm (allRows findingById growths seeds) := by
  have sameFindings := find_perm _ _ perm1 findingsApart
  have sameGrowths := find_perm _ _ perm2 growthsApart
  have rows := make_row_perm findingById' growths' seeds' sameFindings sameGrowths perm3
  have findingRows : findingRow findingById' growths' seeds' = findingRow findingById growths seeds := by
    funext finding
    rw [findingRow, findingRow, rows, sameGrowths]
  have dispositionRows : dispositionRow findingById' growths' seeds' =
      dispositionRow findingById growths seeds := by
    funext disposition
    rw [dispositionRow, dispositionRow, rows]
  have bound : hasFinding findingById' = hasFinding findingById := by
    funext disposition
    rw [hasFinding, hasFinding, perm1.any_eq]
  have inventory : (inventoryRows findingById' growths' seeds').Perm
      (inventoryRows findingById growths seeds) := by
    rw [inventoryRows, inventoryRows, findingRows, dispositionRows, bound]
    exact (perm1.map _).append ((perm2.filter _).map _)
  have linked : linkedIn (inventoryRows findingById' growths' seeds') =
      linkedIn (inventoryRows findingById growths seeds) := by
    funext seed
    rw [linkedIn, linkedIn, inventory.any_eq]
  rw [allRows, allRows, linked]
  exact inventory.append ((perm3.filter _).map _)

/-- The same rows under the same sequence of sort keys, and the same counts. -/
structure SameUpToTies (left right : OpenDiscovery) : Prop where
  version : left.schemaVersion = right.schemaVersion
  keys : left.discoveries.map Row.key = right.discoveries.map Row.key
  rows : left.discoveries.Perm right.discoveries
  counts : left.categoryCounts = right.categoryCounts

theorem discovered_perm (rows rearranged : List Row) (permuted : rearranged.Perm rows) :
    SameUpToTies (discovered rearranged) (discovered rows) := by
  have sorted : (discovered rearranged).discoveries.Perm (discovered rows).discoveries :=
    (List.perm_insertionSort _ _).trans (permuted.trans (List.perm_insertionSort _ _).symm)
  constructor
  · rfl
  · exact Library.Grouping.sorted_keys_perm Row.key rows rearranged permuted
  · exact sorted
  · simp only [discovered, permuted.countP_eq]

end

section

variable {findings dispositions negativeProofs seedMatches : List (Json F)}
variable {findingById dispositionById proofById growths : List (Entry F)} {seeds : List Seed}

theorem normalized_filled (value : Json F) (scope : String)
    (normalized : normalizeRepo value = some scope) : scope ≠ "" := by
  cases value with
  | str text =>
    simp only [normalizeRepo] at normalized
    split at normalized
    · split at normalized
      · cases normalized
        simp [String.ofList_eq]
      · cases normalized
    · cases normalized
  | _ => cases normalized

theorem scope_filled (record : Members F) (scope : String)
    (inScope : recordScope record = .ok scope) : scope ≠ "" := by
  simp only [recordScope, bind_ok, mapM_ok] at inScope
  obtain ⟨_, _, normalized, each, rest⟩ := inScope
  split at rest
  · rename_i held only
    cases rest
    have member : scope ∈ normalized := ((onlyElement_iff normalized scope).mp only).1
    obtain ⟨labelled, _, own⟩ := related_left each.flip scope member
    simp only [normalizedAlias] at own
    split at own
    · rename_i found
      cases own
      exact normalized_filled _ _ found
    · cases own
  · cases rest

theorem entry_shape (key : String) (json : Json F) (entry : Entry F)
    (read : entryOf key json = some entry) :
    json = .obj entry.record ∧ recordScope entry.record = .ok entry.scope ∧
      get entry.record key = .str entry.id := by
  cases json with
  | obj record =>
    simp only [entryOf] at read
    split at read
    · rename_i scope value inScope filled
      cases read
      exact ⟨rfl, inScope, (filled_text _ _ filled).1⟩
    · cases read
  | _ => cases read

theorem placed_shape (disposition growth : Entry F)
    (read : placed proofById disposition = some growth) :
    growth.scope = disposition.scope ∧ growth.record = disposition.record ∧
      filledText (get growth.record "growth_id") = some growth.id := by
  unfold placed at read
  split at read
  · rename_i filled
    split at read
    · cases read
      exact ⟨rfl, rfl, filled⟩
    · cases read
  · cases read

theorem bound_found (finding bound : Entry F) (read : boundGrowth growths finding = some bound) :
    filledText (get finding.record "growth_id") = some (growthIdOf finding) ∧
      ∃ growth, find growths finding.scope (growthIdOf finding) = some growth := by
  unfold boundGrowth at read
  split at read
  · rename_i growthId verdict filled _
    have same : growthIdOf finding = growthId := by
      rw [growthIdOf, (filled_text _ _ filled).1]
      rfl
    rw [same]
    split at read
    · rename_i growth found
      exact ⟨filled, growth, found⟩
    · cases read
  · cases read

theorem count_identity {α β : Type} [DecidableEq β] (identity : α → β) (items : List α)
    (apart : (items.map identity).Nodup) (item : α) (member : item ∈ items) :
    (items.countP fun other => identity other = identity item) = 1 := by
  have counted := List.count_eq_one_of_mem apart (List.mem_map_of_mem (f := identity) member)
  rw [List.count, List.countP_map] at counted
  rw [← counted]
  apply List.countP_congr
  intro other _
  simp [beq_iff_eq]

theorem classify_novel (status : Option DispositionStatus) (verdict : Option StaticVerdict)
    (seedIds : List String) (novel : classify status verdict seedIds = .novelStaticVulnerable ∨
      classify status verdict seedIds = .novelBounded) : seedIds = [] := by
  by_contra filled
  simp only [classify, filled, ne_eq, not_false_eq_true, if_true, and_false, if_false] at novel
  split_ifs at novel <;> simp at novel

theorem linked_mem (seeds : List Seed) (ids : Seed → List String) (index : List (Entry F))
    (seed : Seed) (member : seed ∈ seeds) (links : seed.status.links = true) {scope id : String}
    (sameScope : seed.scope = scope) (known : (find index scope id).isSome = true)
    (named : id ∈ ids seed) : seed.seedId ∈ linking seeds ids index scope id := by
  rw [linking, if_pos known]
  apply List.mem_map_of_mem
  simp [member, links, sameScope, named]

section

variable (reading : Reading findings dispositions negativeProofs seedMatches findingById
  dispositionById proofById growths seeds)
include reading

theorem Reading.bound_read :
    ∃ bound : List (Entry F), findingById.map (boundGrowth growths) = bound.map some := by
  obtain ⟨_, bound, _, read, _⟩ := reading.owned
  exact ⟨bound, read⟩

theorem Reading.finding_filled (finding : Entry F) (member : finding ∈ findingById) :
    finding.scope ≠ "" := by
  obtain ⟨json, _, read⟩ := (reads_item _ _ _ reading.findingsRead).2 finding member
  exact scope_filled _ _ (entry_shape _ _ _ read).2.1

theorem Reading.growth_shape (growth : Entry F) (member : growth ∈ growths) :
    ∃ disposition ∈ dispositionById, placed proofById disposition = some growth ∧
      disposition.identity = (growth.scope, textOf (get growth.record "disposition_id")) ∧
        growth.scope ≠ "" := by
  obtain ⟨disposition, inside, read⟩ := (reads_item _ _ _ reading.placedRead).2 growth member
  obtain ⟨json, _, entry⟩ := (reads_item _ _ _ reading.dispositionsRead).2 disposition inside
  obtain ⟨_, inScope, named⟩ := entry_shape _ _ _ entry
  obtain ⟨sameScope, sameRecord, _⟩ := placed_shape disposition growth read
  refine ⟨disposition, inside, read, ?_, ?_⟩
  · rw [sameRecord, named, sameScope]
    rfl
  · rw [sameScope]
    exact scope_filled _ _ inScope

theorem Reading.dispositions_distinct : (growths.map fun growth =>
      (growth.scope, textOf (get growth.record "disposition_id"))).Nodup := by
  have same := reads_project _ _ _ reading.placedRead Entry.identity
    (fun growth => (growth.scope, textOf (get growth.record "disposition_id"))) (by
      intro disposition inside growth read
      obtain ⟨json, _, entry⟩ := (reads_item _ _ _ reading.dispositionsRead).2 disposition inside
      obtain ⟨_, _, named⟩ := entry_shape _ _ _ entry
      obtain ⟨sameScope, sameRecord, _⟩ := placed_shape disposition growth read
      rw [sameRecord, named, sameScope]
      rfl)
  rw [same]
  exact reading.dispositionsApart

theorem Reading.finding_rows (finding : Entry F) (member : finding ∈ findingById) :
    ((allRows findingById growths seeds).countP fun row =>
      row.findingId = some finding.id ∧ row.target = some finding.scope) = 1 := by
  have own : (findingById.countP fun other =>
      (findingRow findingById growths seeds other).findingId = some finding.id ∧
        (findingRow findingById growths seeds other).target = some finding.scope) =
      findingById.countP fun other => other.identity = finding.identity := by
    apply List.countP_congr
    intro other inside
    have filled := reading.finding_filled other inside
    simp [findingRow, makeRow, Entry.identity, filled, and_comm]
  simp only [allRows, inventoryRows, List.countP_append, List.countP_map, Function.comp_def, own]
  rw [count_identity Entry.identity findingById reading.findingsApart finding member]
  simp [dispositionRow, makeRow, missRow]

theorem Reading.inventory_row (row : Row) (member : row ∈ inventoryRows findingById growths seeds) :
    ∃ (localId scope growthId : String) (finding disposition : Option (Entry F)),
      row = makeRow findingById growths seeds localId scope growthId finding disposition ∧
        scope ≠ "" ∧ (∀ entry ∈ finding, entry ∈ findingById ∧ entry.scope = scope) ∧
          (find growths scope growthId).isSome = true := by
  rcases List.mem_append.mp member with inside | inside
  · obtain ⟨finding, held, same⟩ := List.mem_map.mp inside
    obtain ⟨_, boundRead⟩ := reading.bound_read
    obtain ⟨bound, _, read⟩ := (reads_item _ _ _ boundRead).1 finding held
    obtain ⟨_, growth, found⟩ := bound_found finding bound read
    refine ⟨_, _, _, _, _, same.symm, reading.finding_filled finding held, ?_, ?_⟩
    · intro entry stands
      cases stands
      exact ⟨held, rfl⟩
    · rw [found]
      rfl
  · obtain ⟨growth, held, same⟩ := List.mem_map.mp inside
    have listed := List.mem_of_mem_filter held
    obtain ⟨_, _, _, _, filled⟩ := reading.growth_shape growth listed
    refine ⟨_, _, _, _, _, same.symm, filled, ?_, ?_⟩
    · intro entry stands
      cases stands
    · rw [(find_some growths reading.placedApart _ _ growth).mpr ⟨listed, rfl⟩]
      rfl

theorem Reading.disposition_rows (growth : Entry F) (member : growth ∈ growths)
    (free : hasFinding findingById growth = false) :
    ((allRows findingById growths seeds).countP fun row =>
      row.dispositionId = some (textOf (get growth.record "disposition_id")) ∧
        row.target = some growth.scope) = 1 := by
  have others : (findingById.countP fun finding =>
      (findingRow findingById growths seeds finding).dispositionId =
          some (textOf (get growth.record "disposition_id")) ∧
        (findingRow findingById growths seeds finding).target = some growth.scope) = 0 := by
    apply List.countP_eq_zero.mpr
    intro finding inside
    have filled := reading.finding_filled finding inside
    simp only [findingRow, makeRow, filled, ne_eq, not_false_eq_true, if_true, Option.map_eq_some_iff,
      Option.some.injEq, decide_eq_true_eq]
    intro ⟨⟨held, found, sameId⟩, sameScope⟩
    obtain ⟨heldIn, identity⟩ := (find_some growths reading.placedApart _ _ held).mp found
    have heldScope : held.scope = growth.scope := (congrArg Prod.fst identity).trans sameScope
    have same : held = growth :=
      List.inj_on_of_nodup_map reading.dispositions_distinct heldIn member
        (by rw [heldScope, sameId])
    have known : hasFinding findingById growth = true := by
      apply List.any_eq_true.mpr
      refine ⟨finding, inside, ?_⟩
      rw [decide_eq_true_eq, ← same, identity]
    rw [free] at known
    cases known
  have own : ((growths.filter fun other => !hasFinding findingById other).countP fun other =>
      (dispositionRow findingById growths seeds other).dispositionId =
          some (textOf (get growth.record "disposition_id")) ∧
        (dispositionRow findingById growths seeds other).target = some growth.scope) =
      (growths.filter fun other => !hasFinding findingById other).countP fun other =>
        (other.scope, textOf (get other.record "disposition_id")) =
          (growth.scope, textOf (get growth.record "disposition_id")) := by
    apply List.countP_congr
    intro other inside
    obtain ⟨_, _, _, _, filled⟩ := reading.growth_shape other (List.mem_of_mem_filter inside)
    simp [dispositionRow, makeRow, filled, and_comm]
  have distinct := reading.dispositions_distinct.sublist
    ((List.filter_sublist (p := fun other => !hasFinding findingById other)).map _)
  have kept : growth ∈ growths.filter fun other => !hasFinding findingById other :=
    List.mem_filter.mpr ⟨member, by simp [free]⟩
  simp only [allRows, inventoryRows, List.countP_append, List.countP_map, Function.comp_def, others,
    own]
  rw [count_identity (fun other : Entry F =>
    (other.scope, textOf (get other.record "disposition_id"))) _ distinct growth kept]
  simp [missRow]

theorem Reading.inventory_target (row : Row)
    (member : row ∈ inventoryRows findingById growths seeds) :
    row.recallMiss = false ∧ ∃ scope, row.target = some scope := by
  obtain ⟨_, scope, _, _, _, rfl, filled, _, _⟩ := reading.inventory_row row member
  exact ⟨rfl, scope, if_pos filled⟩

theorem Reading.linked_iff (seed : Seed) :
    linkedIn (inventoryRows findingById growths seeds) seed = true ↔
      ∃ row ∈ allRows findingById growths seeds,
        row.recallMiss = false ∧ row.target = some seed.scope ∧ seed.seedId ∈ row.seedIds := by
  simp only [linkedIn, List.any_eq_true, Bool.and_eq_true, decide_eq_true_eq]
  constructor
  · intro ⟨row, member, target, named⟩
    obtain ⟨kept, scope, own⟩ := reading.inventory_target row member
    rw [own] at target
    refine ⟨row, List.mem_append_left _ member, kept, ?_, named⟩
    rw [own]
    exact congrArg some target
  · intro ⟨row, member, kept, target, named⟩
    rcases List.mem_append.mp member with inside | missed
    · refine ⟨row, inside, ?_, named⟩
      rw [target]
      rfl
    · obtain ⟨other, _, same⟩ := List.mem_map.mp missed
      subst same
      cases kept

theorem Reading.missed_rows (seed : Seed) (member : seed ∈ seeds) :
    ((allRows findingById growths seeds).countP fun row =>
      row.recallMiss = true ∧ row.target = some seed.scope ∧ row.seedIds = [seed.seedId]) =
      if linkedIn (inventoryRows findingById growths seeds) seed = true then 0 else 1 := by
  have none : ((inventoryRows findingById growths seeds).countP fun row =>
      row.recallMiss = true ∧ row.target = some seed.scope ∧ row.seedIds = [seed.seedId]) = 0 := by
    apply List.countP_eq_zero.mpr
    intro row inside
    simp [(reading.inventory_target row inside).1]
  have own (kept : List Seed) : (kept.countP fun other => (missRow other).recallMiss = true ∧
      (missRow other).target = some seed.scope ∧ (missRow other).seedIds = [seed.seedId]) =
      kept.countP fun other => other.identity = seed.identity := by
    apply List.countP_congr
    intro other _
    simp [missRow, Seed.identity]
  simp only [allRows, List.countP_append, List.countP_map, Function.comp_def, none, own]
  rw [Nat.zero_add]
  split
  · rename_i linked
    apply List.countP_eq_zero.mpr
    intro other inside same
    obtain ⟨listed, free⟩ := List.mem_filter.mp inside
    have equal : other = seed :=
      List.inj_on_of_nodup_map reading.seedsApart listed member (of_decide_eq_true same)
    rw [equal, linked] at free
    cases free
  · rename_i free
    have distinct := reading.seedsApart.sublist ((List.filter_sublist
      (p := fun other => !linkedIn (inventoryRows findingById growths seeds) other)).map _)
    exact count_identity Seed.identity _ distinct seed
      (List.mem_filter.mpr ⟨member, by simp [free]⟩)

theorem Reading.novel_unlinked (row : Row) (member : row ∈ allRows findingById growths seeds)
    (novel : row.classification = .novelStaticVulnerable ∨ row.classification = .novelBounded)
    (seed : Seed) (listed : seed ∈ seeds) (links : seed.status.links = true)
    (target : row.target = some seed.scope) :
    (∀ id, row.findingId = some id → id ∉ seed.findingIds) ∧
      ∀ id, row.growthId = some id → id ∉ seed.growthIds := by
  rcases List.mem_append.mp member with inside | missed
  · obtain ⟨localId, scope, growthId, finding, disposition, rfl, filled, stands, known⟩ :=
      reading.inventory_row row inside
    have sameScope : seed.scope = scope := by
      rw [makeRow, if_pos filled] at target
      exact (Option.some_inj.mp target).symm
    have empty : (makeRow findingById growths seeds localId scope growthId finding
        disposition).seedIds = [] := classify_novel _ _ _ novel
    have apart (seedId : String) (held : seedId ∈
        linking seeds Seed.findingIds findingById scope (orNone (finding.map Entry.id)) ++
          linking seeds Seed.growthIds growths scope growthId) : False := by
      have present : seedId ∈ (makeRow findingById growths seeds localId scope growthId finding
          disposition).seedIds := (mem_sortedSet _ seedId).mpr held
      rw [empty] at present
      cases present
    constructor
    · intro id named held
      have shown : finding.map Entry.id = some id := named
      obtain ⟨entry, own, same⟩ := Option.map_eq_some_iff.mp shown
      obtain ⟨entryIn, entryScope⟩ := stands entry own
      have found : (find findingById scope id).isSome = true := by
        rw [(find_some findingById reading.findingsApart scope id entry).mpr
          ⟨entryIn, by rw [← entryScope, ← same]; rfl⟩]
        rfl
      apply apart seed.seedId
      apply List.mem_append_left
      rw [shown]
      exact linked_mem seeds Seed.findingIds findingById seed listed links sameScope found held
    · intro id named held
      cases named
      apply apart seed.seedId
      apply List.mem_append_right
      exact linked_mem seeds Seed.growthIds growths seed listed links sameScope known held
  · obtain ⟨other, _, same⟩ := List.mem_map.mp missed
    subst same
    rcases novel with novel | novel <;> cases novel

end

theorem category_sum (rows : List Row) :
    ((discovered rows).categoryCounts.map Prod.snd).sum = (discovered rows).discoveries.length := by
  have total : (openDiscoveryClasses.map fun category =>
      rows.countP fun row => row.classification = category).sum = rows.length := by
    induction rows with
    | nil => rfl
    | cons row rows ih =>
      simp only [openDiscoveryClasses, List.map_cons, List.map_nil, List.sum_cons, List.sum_nil,
        List.countP_cons, List.length_cons] at ih ⊢
      cases row.classification <;> simp <;> omega
  simp only [discovered, List.map_map, List.length_insertionSort]
  exact total

/-- A row of a finding or of a disposition names the seed. -/
def OpenDiscovery.Links (result : OpenDiscovery) (scope seedId : String) : Prop :=
  ∃ row ∈ result.discoveries,
    row.recallMiss = false ∧ row.target = some scope ∧ seedId ∈ row.seedIds

def OpenDiscovery.misses (result : OpenDiscovery) (scope seedId : String) : Nat :=
  result.discoveries.countP fun row =>
    row.recallMiss = true ∧ row.target = some scope ∧ row.seedIds = [seedId]

structure Accounts (findings dispositions negativeProofs seedMatches : List (Json F))
    (result : OpenDiscovery) : Prop where
  rearranged : ∀ findings' dispositions' negativeProofs' seedMatches' : List (Json F),
    findings'.Perm findings → dispositions'.Perm dispositions →
      negativeProofs'.Perm negativeProofs → seedMatches'.Perm seedMatches →
        ∃ result', evaluateOpenDiscovery findings' dispositions' negativeProofs' seedMatches' =
          .ok result' ∧ SameUpToTies result' result
  findingRows : ∀ finding ∈ findings, ∃ record scope id, finding = .obj record ∧
    recordScope record = .ok scope ∧ get record "finding_id" = .str id ∧
      (result.discoveries.countP fun row =>
        row.findingId = some id ∧ row.target = some scope) = 1
  dispositionRows : ∀ disposition ∈ dispositions, ∃ record scope id growthId,
    disposition = .obj record ∧ recordScope record = .ok scope ∧
      get record "disposition_id" = .str id ∧ get record "growth_id" = .str growthId ∧
        ((∀ finding, .obj finding ∈ findings → recordScope finding = .ok scope →
            get finding "growth_id" ≠ .str growthId) →
          (result.discoveries.countP fun row =>
            row.dispositionId = some id ∧ row.target = some scope) = 1)
  seedRows : ∀ seed ∈ seedMatches, ∃ record scope seedId, seed = .obj record ∧
    recordScope record = .ok scope ∧ seedIdentity record = .ok seedId ∧
      (result.Links scope seedId ∧ result.misses scope seedId = 0 ∨
        ¬ result.Links scope seedId ∧ result.misses scope seedId = 1)
  counts : (result.categoryCounts.map Prod.snd).sum = result.discoveries.length
  novel : ∀ row ∈ result.discoveries,
    row.classification = .novelStaticVulnerable ∨ row.classification = .novelBounded →
      ∀ record scope status carriers, .obj record ∈ seedMatches →
        recordScope record = .ok scope → row.target = some scope →
          named seedStatuses SeedStatus.text (get record "status") = some status →
            status.links = true → seedIdCarriers record = .ok carriers →
              ∀ carrier ∈ carriers, (∀ id, row.findingId = some id → id ∉ carrier.findingIds) ∧
                ∀ id, row.growthId = some id → id ∉ carrier.growthIds

theorem seed_shape (json : Json F) (seed : Seed) (read : seedOf findingById json = some seed) :
    ∃ record carriers, json = .obj record ∧ recordScope record = .ok seed.scope ∧
      seedIdentity record = .ok seed.seedId ∧
        named seedStatuses SeedStatus.text (get record "status") = some seed.status ∧
          seedIdCarriers record = .ok carriers ∧
            seed = seedFrom seed.scope seed.seedId seed.status carriers := by
  cases json with
  | obj record =>
    simp only [seedOf] at read
    split at read
    · rename_i scope seedId status carriers inScope identified stated carried
      split at read
      · cases read
        exact ⟨record, carriers, rfl, inScope, identified, stated, carried, rfl⟩
      · cases read
    · cases read
  | _ => cases read

/-- What every accepted evaluation accounts for. -/
theorem open_discovery_accounts
    (findings dispositions negativeProofs seedMatches : List (Json F)) (result : OpenDiscovery)
    (accepted : evaluateOpenDiscovery findings dispositions negativeProofs seedMatches =
      .ok result) : Accounts findings dispositions negativeProofs seedMatches result := by
  obtain ⟨findingById, dispositionById, proofById, growths, seeds, reading, rfl⟩ :=
    (evaluate_ok _ _ _ _ _).mp accepted
  have sorted : (discovered (allRows findingById growths seeds)).discoveries.Perm
      (allRows findingById growths seeds) := List.perm_insertionSort _ _
  constructor
  · intro findings' dispositions' negativeProofs' seedMatches' perm1 perm2 perm3 perm4
    obtain ⟨findingById', dispositionById', proofById', growths', seeds', reading', order1, order2,
      order3⟩ := reading.rearranged _ _ _ _ perm1 perm2 perm3 perm4
    refine ⟨_, (evaluate_ok _ _ _ _ _).mpr ⟨_, _, _, _, _, reading', rfl⟩, ?_⟩
    apply discovered_perm
    exact all_rows_perm _ _ _ reading.findingsApart reading.placedApart order1 order2 order3
  · intro finding member
    obtain ⟨entry, inside, read⟩ := (reads_item _ _ _ reading.findingsRead).1 finding member
    obtain ⟨shape, inScope, identified⟩ := entry_shape _ _ _ read
    refine ⟨entry.record, entry.scope, entry.id, shape, inScope, identified, ?_⟩
    rw [sorted.countP_eq]
    exact reading.finding_rows entry inside
  · intro disposition member
    obtain ⟨entry, inside, read⟩ := (reads_item _ _ _ reading.dispositionsRead).1 disposition member
    obtain ⟨shape, inScope, identified⟩ := entry_shape _ _ _ read
    obtain ⟨growth, growthIn, placedAs⟩ := (reads_item _ _ _ reading.placedRead).1 entry inside
    obtain ⟨sameScope, sameRecord, filled⟩ := placed_shape entry growth placedAs
    rw [sameRecord] at filled
    refine ⟨entry.record, entry.scope, entry.id, growth.id, shape, inScope, identified,
      (filled_text _ _ filled).1, ?_⟩
    intro unbound
    have free : hasFinding findingById growth = false := by
      rw [← Bool.not_eq_true]
      intro known
      obtain ⟨finding, findingIn, same⟩ := List.any_eq_true.mp known
      obtain ⟨json, jsonIn, jsonRead⟩ := (reads_item _ _ _ reading.findingsRead).2 finding findingIn
      obtain ⟨jsonShape, jsonScope, _⟩ := entry_shape _ _ _ jsonRead
      obtain ⟨_, boundRead⟩ := reading.bound_read
      obtain ⟨bound, _, boundAs⟩ := (reads_item _ _ _ boundRead).1 finding findingIn
      have pair := Prod.mk.inj (of_decide_eq_true same)
      apply unbound finding.record (jsonShape ▸ jsonIn)
      · rw [jsonScope, pair.1, sameScope]
      · rw [← pair.2]
        exact (filled_text _ _ (bound_found finding bound boundAs).1).1
    have counted := reading.disposition_rows growth growthIn free
    rw [sameRecord, identified, sameScope] at counted
    rw [sorted.countP_eq]
    exact counted
  · intro seed member
    obtain ⟨kept, inside, read⟩ := (reads_item _ _ _ reading.seedsRead).1 seed member
    obtain ⟨record, carriers, shape, inScope, identified, _⟩ := seed_shape seed kept read
    have links : (discovered (allRows findingById growths seeds)).Links kept.scope kept.seedId ↔
        linkedIn (inventoryRows findingById growths seeds) kept = true := by
      rw [reading.linked_iff kept]
      simp only [OpenDiscovery.Links, sorted.mem_iff]
    have missed : (discovered (allRows findingById growths seeds)).misses kept.scope kept.seedId =
        if linkedIn (inventoryRows findingById growths seeds) kept = true then 0 else 1 := by
      rw [OpenDiscovery.misses, sorted.countP_eq]
      exact reading.missed_rows kept inside
    refine ⟨record, kept.scope, kept.seedId, shape, inScope, identified, ?_⟩
    rw [links, missed]
    by_cases linked : linkedIn (inventoryRows findingById growths seeds) kept = true
    · rw [if_pos linked]
      exact Or.inl ⟨linked, rfl⟩
    · rw [if_neg linked]
      exact Or.inr ⟨linked, rfl⟩
  · exact category_sum _
  · intro row member novel record scope status carriers listed inScope target stated links carried
      carrier carrierIn
    obtain ⟨seed, seedIn, read⟩ := (reads_item _ _ _ reading.seedsRead).1 _ listed
    obtain ⟨record', carriers', shape, inScope', _, stated', carried', same⟩ :=
      seed_shape _ seed read
    cases shape
    cases inScope'.symm.trans inScope
    cases stated'.symm.trans stated
    cases carried'.symm.trans carried
    obtain ⟨findingsApart, growthsApart⟩ := reading.novel_unlinked row (sorted.mem_iff.mp member)
      novel seed seedIn links target
    constructor
    · intro id shown held
      apply findingsApart id shown
      rw [same]
      exact List.mem_dedup.mpr (List.mem_flatMap.mpr ⟨carrier, carrierIn, held⟩)
    · intro id shown held
      apply growthsApart id shown
      rw [same]
      exact List.mem_dedup.mpr (List.mem_flatMap.mpr ⟨carrier, carrierIn, held⟩)

end

def sampleFindings : List PlainJson := [
  .obj [("repository", .str "Owner__App"), ("finding_id", .str "f1"), ("growth_id", .str "g1"),
    ("verdict", .str "static_vulnerable")]]

def sampleDispositions : List PlainJson := [
  .obj [("batch_target_name", .str "owner/app"), ("disposition_id", .str "d1"),
    ("growth_id", .str "g1"), ("status", .str "formal_eligible"), ("negative_proof_ids", .arr [])],
  .obj [("repository", .str "owner/app"), ("disposition_id", .str "d2"), ("growth_id", .str "g2"),
    ("status", .str "rejected"), ("negative_proof_ids", .arr [.str "p1"])]]

def sampleProofs : List PlainJson := [
  .obj [("repository", .str "owner/app"), ("negative_proof_id", .str "p1"),
    ("growth_id", .str "g2"), ("kind", .str "finite_keyspace")]]

def sampleSeeds : List PlainJson := [
  .obj [("repository", .str "owner/app"), ("record_id", .str "s1"), ("status", .str "hit"),
    ("matched_finding_ids", .arr [.str "f1"])],
  .obj [("repository", .str "owner/app"), ("case_id", .str "s2"), ("status", .str "no_candidate")]]

def sampleDiscovery : OpenDiscovery where
  schemaVersion := 1
  discoveries := [
    ⟨"owner/app::d2", some "owner/app", none, some "g2", some "d2", none, some .rejected, ["p1"], [],
      .sourceProvenNegative, false, none⟩,
    ⟨"owner/app::f1", some "owner/app", some "f1", some "g1", some "d1", some .staticVulnerable,
      some .formalEligible, [], ["s1"], .seedLinkedStaticVulnerable, false, none⟩,
    ⟨"owner/app::seed::s2", some "owner/app", none, none, none, none, none, [], ["s2"],
      .unresolvedDiscovery, true, some .noCandidate⟩]
  categoryCounts := [(.seedLinkedStaticVulnerable, 1), (.novelStaticVulnerable, 0),
    (.novelBounded, 0), (.sourceProvenNegative, 1), (.unresolvedDiscovery, 1)]

theorem sample_accounts :
    Accounts sampleFindings sampleDispositions sampleProofs sampleSeeds sampleDiscovery :=
  open_discovery_accounts _ _ _ _ _ (by rfl)

end DosWeb.Benchmark
