import DosWeb.Flows.Rows

/-!
Normalizing raw rows: what each row contributes, and why the order of the rows and of the maps does
not matter.
-/

namespace DosWeb.Flows

open Library.JsonValue Library.JsonRecord Library.Keyed Library.Grouping
open Entries (EntryFact CoverageStatus narrowedBy narrowed_mem narrowed_filled narrowed_perm
  registrationOrder)
open Growth (VerifiedGrowthResult)

variable {F : Type}

section

theorem entry_matches_mem (entries : List (String × EntryFact)) (sourceFile : String)
    (sourceLine : Nat) (entry : EntryFact) :
    entry ∈ entryMatches entries sourceFile sourceLine ↔ entry ∈ entries.map Prod.snd ∧
      entry.handler.file.1 = sourceFile ∧ entry.handler.startLine.1 = sourceLine := by
  rw [entryMatches, List.mem_filter, Bool.and_eq_true, decide_eq_true_iff, decide_eq_true_iff]

variable (source : String)

theorem entry_domain_mem (matched : List EntryFact) (entry : EntryFact)
    (inside : entry ∈ entryDomain source matched) : entry ∈ matched := by
  rw [entryDomain, List.mem_insertionSort] at inside
  split at inside
  · exact inside
  · exact List.mem_of_mem_filter inside

theorem entry_domain_filled (matched : List EntryFact) (filled : matched ≠ []) :
    entryDomain source matched ≠ [] := by
  rw [entryDomain, ← List.length_pos_iff, List.length_insertionSort, List.length_pos_iff]
  split
  · exact filled
  · assumption

theorem entry_domain_reads (matched : List EntryFact) (left right : EntryFact)
    (leftHeld : left ∈ entryDomain source matched)
    (rightHeld : right ∈ entryDomain source matched) :
    readsInput source left = readsInput source right := by
  rw [entryDomain, List.mem_insertionSort] at leftHeld rightHeld
  split at leftHeld
  · rename_i none_
    rw [if_pos none_] at rightHeld
    have unread := List.filter_eq_nil_iff.mp none_
    rw [Bool.eq_false_iff.mpr (unread left leftHeld), Bool.eq_false_iff.mpr (unread right rightHeld)]
  · rename_i some_
    rw [if_neg some_] at rightHeld
    rw [List.of_mem_filter leftHeld, List.of_mem_filter rightHeld]

theorem entry_domain_perm (left right : List EntryFact)
    (permuted : left.Perm right) : (entryDomain source left).Perm (entryDomain source right) := by
  have kept := permuted.filter (readsInput source)
  have empty : left.filter (readsInput source) = [] ↔ right.filter (readsInput source) = [] := by
    rw [← List.length_eq_zero_iff, ← List.length_eq_zero_iff, kept.length_eq]
  rw [entryDomain, entryDomain]
  apply (List.perm_insertionSort _ _).trans
  apply List.Perm.trans _ (List.perm_insertionSort _ _).symm
  by_cases plain : left.filter (readsInput source) = []
  · rw [if_pos plain, if_pos (empty.mp plain)]
    exact permuted
  · rw [if_neg plain, if_neg fun other => plain (empty.mpr other)]
    exact kept

end

theorem argmin_filled {κ : Type} [LinearOrder κ] (key : EntryFact → κ) (entries : List EntryFact)
    (filled : entries ≠ []) : ∃ least ∈ entries, entries.argmin key = some least := by
  cases found : entries.argmin key with
  | none => exact absurd (List.argmin_eq_none.mp found) filled
  | some least => exact ⟨least, List.argmin_mem found, rfl⟩

theorem entries_for_growth_sub (matched : List EntryFact) (result : VerifiedGrowthResult)
    (resolved : List EntryFact) (filled : matched ≠ [])
    (ran : entriesForGrowth matched result = .ok resolved) :
    resolved ≠ [] ∧ ∀ entry ∈ resolved, entry ∈ matched := by
  unfold entriesForGrowth at ran
  split at ran
  · cases ran
  · rename_i candidate _
    have kept := narrowed_filled candidate.demandNames matched filled
    have inside := narrowed_mem candidate.demandNames matched
    dsimp only at ran
    split at ran
    · cases ran
      exact ⟨kept, inside⟩
    · split at ran
      · obtain ⟨least, member, found⟩ := argmin_filled registrationOrder _ kept
        rw [found] at ran
        cases ran
        exact ⟨List.cons_ne_nil _ _, fun entry held =>
          List.mem_singleton.mp held ▸ inside least member⟩
      · split at ran
        · obtain ⟨least, member, found⟩ := argmin_filled EntryFact.entryId _ kept
          rw [found] at ran
          cases ran
          exact ⟨List.cons_ne_nil _ _, fun entry held =>
            List.mem_singleton.mp held ▸ inside least member⟩
        · split at ran
          · cases ran
            constructor
            · rw [← List.length_pos_iff, List.length_insertionSort, List.length_pos_iff]
              exact kept
            · intro entry held
              exact inside entry ((List.mem_insertionSort _).mp held)
          · cases ran

theorem registration_order_id (left right : EntryFact)
    (same : registrationOrder left = registrationOrder right) : left.entryId = right.entryId := by
  simp only [registrationOrder, toLex_inj, Prod.mk.injEq] at same
  exact same.2.2.2.2.2

theorem least_ids {κ : Type} [LinearOrder κ] (key : EntryFact → κ)
    (identified : ∀ left right, key left = key right → left.entryId = right.entryId)
    (left right : List EntryFact) (permuted : left.Perm right) :
    (left.argmin key).toList.map EntryFact.entryId =
      (right.argmin key).toList.map EntryFact.entryId := by
  have same := argmin_perm key left right permuted
  cases first : left.argmin key with
  | none =>
    rw [first, Option.map_none] at same
    rw [Option.map_eq_none_iff.mp same.symm]
  | some least =>
    rw [first, Option.map_some] at same
    obtain ⟨other, found, equal⟩ := Option.map_eq_some_iff.mp same.symm
    rw [found]
    exact congrArg (fun identifier => [identifier]) (identified least other equal.symm)

theorem entries_for_growth_perm (left right : List EntryFact) (result : VerifiedGrowthResult)
    (resolved : List EntryFact) (permuted : left.Perm right)
    (ran : entriesForGrowth left result = .ok resolved) :
    ∃ others, entriesForGrowth right result = .ok others ∧
      others.map EntryFact.entryId = resolved.map EntryFact.entryId := by
  unfold entriesForGrowth at ran ⊢
  cases known : result.candidate with
  | none =>
    rw [known] at ran
    cases ran
  | some candidate =>
    rw [known] at ran
    dsimp only at ran ⊢
    have kept := narrowed_perm candidate.demandNames left right permuted
    generalize narrowedBy candidate.demandNames left = first at ran kept
    generalize narrowedBy candidate.demandNames right = second at kept ⊢
    have agree {κ : Type} [DecidableEq κ] (key : EntryFact → κ) :
        oneValue (first.map key) = oneValue (second.map key) :=
      one_value_congr _ _ fun _ => (kept.map key).mem_iff
    rw [kept.length_eq, agree, agree, agree,
      ((kept.map EntryFact.routeOrEvent).dedup).length_eq] at ran
    by_cases single : second.length = 1
    · rw [if_pos single] at ran ⊢
      cases ran
      obtain ⟨entry, rfl⟩ := List.length_eq_one_iff.mp single
      rw [List.perm_singleton.mp kept]
      exact ⟨_, rfl, rfl⟩
    · rw [if_neg single] at ran ⊢
      split at ran
      · rename_i semantic
        rw [if_pos semantic]
        cases ran
        exact ⟨_, rfl, least_ids _ registration_order_id _ _ kept.symm⟩
      · rename_i semantic
        rw [if_neg semantic]
        split at ran
        · rename_i registered
          rw [if_pos registered]
          cases ran
          exact ⟨_, rfl, least_ids _ (fun _ _ same => same) _ _ kept.symm⟩
        · rename_i registered
          rw [if_neg registered]
          split at ran
          · rename_i routed
            rw [if_pos routed]
            cases ran
            exact ⟨_, rfl, sorted_keys_perm EntryFact.entryId first second kept.symm⟩
          · cases ran

/-- The maps that rows are normalized with; each has a key once. -/
structure RowMaps where
  entries : List (String × EntryFact)
  growth : List (String × VerifiedGrowthResult)
  canonicalEntryIds : Option (List (String × String))
  entriesDistinct : (entries.map Prod.fst).Nodup
  growthDistinct : (growth.map Prod.fst).Nodup
  canonicalDistinct : ∀ canonical ∈ canonicalEntryIds, (canonical.map Prod.fst).Nodup

structure RowMaps.Rearranged (maps others : RowMaps) : Prop where
  entries : maps.entries.Perm others.entries
  growth : maps.growth.Perm others.growth
  canonicalEntryIds : Option.Rel List.Perm maps.canonicalEntryIds others.canonicalEntryIds

section

variable (maps others : RowMaps) (rearranged : maps.Rearranged others)

include rearranged

theorem entry_matches_perm (sourceFile : String) (sourceLine : Nat) :
    (entryMatches maps.entries sourceFile sourceLine).Perm
      (entryMatches others.entries sourceFile sourceLine) :=
  (rearranged.entries.map Prod.snd).filter _

theorem resolve_growth_perm (places : RowPlaces) (control : AttackerControl)
    (result : VerifiedGrowthResult)
    (resolved : resolveGrowth maps.entries maps.growth places control = .ok result) :
    resolveGrowth others.entries others.growth places control = .ok result := by
  have matched := entry_matches_perm maps others rearranged places.sourceFile places.sourceLine
  have kept : (growthMatches maps.growth places.sinkFile places.sinkLine control).Perm
      (growthMatches others.growth places.sinkFile places.sinkLine control) :=
    rearranged.growth.filterMap _
  unfold resolveGrowth at resolved ⊢
  split at resolved
  · rename_i single found
    rw [found] at kept
    rw [← List.singleton_perm.mp kept]
    dsimp only
    split at resolved
    · rename_i filled
      rw [if_pos fun none_ => filled (matched.trans (List.Perm.of_eq none_)).eq_nil]
      exact resolved
    · cases resolved
  · cases resolved

theorem canonical_entry_perm (canonical moved : List (String × String))
    (permuted : canonical.Perm moved) (distinct : (canonical.map Prod.fst).Nodup)
    (growthId : String) (left right : List EntryFact) (kept : left.Perm right) :
    canonicalEntry maps.entries canonical growthId left =
      canonicalEntry others.entries moved growthId right := by
  have entries := lookup_perm _ _ rearranged.entries maps.entriesDistinct
  unfold canonicalEntry
  rw [lookup_perm _ _ permuted distinct]
  simp only [entries, kept.mem_iff]

theorem resolved_entries_perm (left right : List EntryFact) (kept : left.Perm right)
    (result : VerifiedGrowthResult) (resolved : List EntryFact)
    (ran : resolvedEntries maps.entries maps.canonicalEntryIds left result = .ok resolved) :
    ∃ found, resolvedEntries others.entries others.canonicalEntryIds right result = .ok found ∧
      found.map EntryFact.entryId = resolved.map EntryFact.entryId := by
  have related := rearranged.canonicalEntryIds
  have distinct := maps.canonicalDistinct
  unfold resolvedEntries at ran ⊢
  generalize maps.canonicalEntryIds = own at related distinct ran
  generalize others.canonicalEntryIds = moved at related
  cases related with
  | none => exact entries_for_growth_perm left right result resolved kept ran
  | some permuted =>
    dsimp only at ran ⊢
    rw [canonical_entry_perm maps others rearranged _ _ permuted (distinct _ rfl) _ _ _ kept] at ran
    exact ⟨resolved, ran, rfl⟩

end

def rowProofs (maps : RowMaps) (row : Json F) : Checked (List FlowProof) :=
  match objectOf row with
  | none => .error (flowInvalid "ROW_NOT_MAPPING")
  | some members => do
      let reading ← readRow maps.entries maps.growth maps.canonicalEntryIds members
      reading.resolved.mapM (entryProof reading)

variable (entries : List (String × EntryFact))

variable (growth : List (String × VerifiedGrowthResult))
  (canonicalEntryIds : Option (List (String × String))) (row : Members F) (reading : RowReading F)

theorem read_row_ok : readRow entries growth canonicalEntryIds row = .ok reading ↔
      rawFields row = .ok () ∧ placesOf row = .ok reading.places ∧
        attackerControlOf row = .ok reading.control ∧
        resolveGrowth entries growth reading.places reading.control = .ok reading.growth ∧
        resolvedEntries entries canonicalEntryIds (entryDomain reading.control.source.1
          (entryMatches entries reading.places.sourceFile reading.places.sourceLine))
          reading.growth = .ok reading.resolved ∧
        demandChecks reading.control reading.growth = .ok () ∧
        memberOf coverageStatuses CoverageStatus.text (get row "coverage_status")
          "coverage_status" = .ok reading.coverage ∧
        memberOf flowConfidences FlowConfidence.text (get row "confidence") "confidence" =
          .ok reading.confidence ∧ textOf (get row "flow_kind") "flow_kind" = .ok reading.flowKind ∧
        textOf (get row "coverage_note") "coverage_note" = .ok reading.note ∧
        get row "call_path" = reading.callPath ∧ get row "phase_sequence" = reading.phaseSequence := by
  simp only [readRow, bind_ok]
  constructor
  · intro read
    obtain ⟨_, fields, places, placed, control, controlled, result, grown, resolved, found, _,
      demanded, coverage, covered, confidence, trusted, flowKind, kind, note, noted, same⟩ := read
    cases same
    exact ⟨fields, placed, controlled, grown, found, demanded, covered, trusted, kind, noted, rfl,
      rfl⟩
  · intro read
    obtain ⟨fields, placed, controlled, grown, found, demanded, covered, trusted, kind, noted, calls,
      phases⟩ := read
    exact ⟨(), fields, _, placed, _, controlled, _, grown, _, found, (), demanded, _, covered, _,
      trusted, _, kind, _, noted, by rw [calls, phases]; rfl⟩

theorem resolved_domain (canonicalEntryIds : Option (List (String × String)))
    (domain : List EntryFact) (result : VerifiedGrowthResult) (resolved : List EntryFact) (filled : domain ≠ [])
    (ran : resolvedEntries entries canonicalEntryIds domain result = .ok resolved) :
    resolved ≠ [] ∧ ∀ entry ∈ resolved, entry ∈ domain := by
  unfold resolvedEntries at ran
  split at ran
  · exact entries_for_growth_sub domain result resolved filled ran
  · obtain ⟨entry, found, same⟩ := bind_ok.mp ran
    cases same
    unfold canonicalEntry at found
    split at found
    · split at found
      · rename_i held
        cases found
        exact ⟨List.cons_ne_nil _ _, fun other inside => List.mem_singleton.mp inside ▸ held⟩
      · cases found
    · cases found

theorem resolve_growth_ok (growth : List (String × VerifiedGrowthResult)) (places : RowPlaces)
    (control : AttackerControl) (result : VerifiedGrowthResult)
    (resolved : resolveGrowth entries growth places control = .ok result) :
    (∃ candidate, growthMatches growth places.sinkFile places.sinkLine control =
      [(result, candidate)]) ∧ entryMatches entries places.sourceFile places.sourceLine ≠ [] := by
  unfold resolveGrowth at resolved
  split at resolved
  · rename_i matched found
    split at resolved
    · rename_i filled
      cases resolved
      exact ⟨⟨matched.2, found⟩, filled⟩
    · cases resolved
  · cases resolved

theorem reading_resolved (read : readRow entries growth canonicalEntryIds row = .ok reading) :
    reading.resolved ≠ [] ∧ ∀ entry ∈ reading.resolved, entry ∈ entryDomain reading.control.source.1
        (entryMatches entries reading.places.sourceFile reading.places.sourceLine) := by
  obtain ⟨_, _, _, grown, found, _⟩ := (read_row_ok _ _ _ _ _).mp read
  obtain ⟨_, filled⟩ := resolve_growth_ok _ _ _ _ _ grown
  exact resolved_domain _ _ _ _ _ (entry_domain_filled _ _ filled) found

/-- What a proof has of the parts that it is built of. -/
structure Created (parts : ProofParts) (proof : FlowProof) : Prop where
  entryId : parts.entry.entryId = proof.entryId
  growthId : parts.growth.growthId = proof.growthId
  control : parts.control = proof.attackerControl
  callPath : parts.callPath = proof.callPath
  phaseSequence : parts.phaseSequence = proof.phaseSequence
  confidence : parts.confidence = proof.confidence
  flowKind : parts.flowKind = proof.flowKind
  coverageStatus : parts.coverageStatus = proof.coverageStatus
  coverageNote : parts.coverageNote = proof.coverageNote

theorem created_iff (parts : ProofParts) (proof : FlowProof) :
    FlowProof.create parts = .ok proof ↔ Created parts proof := by
  constructor
  · intro made
    unfold FlowProof.create at made
    split at made
    · split at made
      · split at made
        · cases made
          exact ⟨rfl, rfl, rfl, rfl, rfl, rfl, rfl, rfl, rfl⟩
        · cases made
      · cases made
    · cases made
  · intro made
    obtain ⟨entry, growth, control, callPath, phaseSequence, confidence, flowKind, coverageStatus,
      coverageNote⟩ := parts
    obtain ⟨entryId, growthId, controlled, calls, phases, confident, kind, status, note⟩ := made
    obtain ⟨pathId, _, _, _, _, _, _, _, _, _, _, _, callsValid, phasesValid, complete, canonical⟩ :=
      proof
    dsimp only at entryId growthId controlled calls phases confident kind status note
    subst entryId growthId controlled calls phases confident kind status note canonical
    unfold FlowProof.create
    rw [dif_pos callsValid, dif_pos phasesValid, dif_pos complete]

theorem entry_proof_ok (reading : RowReading F) (entry : EntryFact) (proof : FlowProof) :
    entryProof reading entry = .ok proof ↔ readsInput reading.control.source.1 entry = true ∧
      itemsOf reading.callPath "call_path" = .ok proof.callPath ∧
      itemsOf reading.phaseSequence "phase_sequence" = .ok proof.phaseSequence ∧
      Created (reading.parts entry proof.callPath proof.phaseSequence) proof := by
  simp only [entryProof, bind_ok, require_ok, created_iff]
  constructor
  · intro run
    obtain ⟨_, reads, callPath, calls, phaseSequence, phases, made⟩ := run
    have own : callPath = proof.callPath := made.callPath
    have other : phaseSequence = proof.phaseSequence := made.phaseSequence
    subst own other
    exact ⟨reads, calls, phases, made⟩
  · intro run
    obtain ⟨reads, calls, phases, made⟩ := run
    exact ⟨(), reads, _, calls, _, phases, made⟩

theorem entry_proof_congr (reading : RowReading F) (found : List EntryFact) (left right : EntryFact)
    (proof : FlowProof) (count : found.length = reading.resolved.length)
    (entryId : right.entryId = left.entryId)
    (reads : readsInput reading.control.source.1 left = readsInput reading.control.source.1 right)
    (made : entryProof reading left = .ok proof) :
    entryProof { reading with resolved := found } right = .ok proof := by
  have fanned : RowReading.fannedOut { reading with resolved := found } = reading.fannedOut := by
    rw [RowReading.fannedOut, RowReading.fannedOut, count]
  obtain ⟨held, calls, phases, own⟩ := (entry_proof_ok _ _ _).mp made
  obtain ⟨entry, growthId, controlled, _, _, confident, kind, status, note⟩ := own
  apply (entry_proof_ok { reading with resolved := found } right proof).mpr
  refine ⟨reads ▸ held, calls, phases, entryId.trans entry, growthId, controlled, rfl, rfl, ?_, kind, ?_, ?_⟩
  · rw [← confident]
    simp only [RowReading.parts, RowReading.provenConfidence, fanned]
  · rw [← status]
    simp only [RowReading.parts, RowReading.provenCoverage, fanned]
  · rw [← note]
    simp only [RowReading.parts, RowReading.provenNote, fanned]

theorem row_proofs_perm (maps others : RowMaps) (rearranged : maps.Rearranged others) (row : Json F)
    (proofs : List FlowProof) (ran : rowProofs maps row = .ok proofs) :
    rowProofs others row = .ok proofs := by
  unfold rowProofs at ran ⊢
  cases known : objectOf row with
  | none =>
    rw [known] at ran
    cases ran
  | some members =>
    rw [known] at ran
    obtain ⟨reading, read, each⟩ := bind_ok.mp ran
    obtain ⟨fields, placed, controlled, grown, found, rest⟩ := (read_row_ok _ _ _ _ _).mp read
    obtain ⟨_, inside⟩ := reading_resolved _ _ _ _ _ read
    have matched := entry_domain_perm reading.control.source.1 _ _
      (entry_matches_perm maps others rearranged reading.places.sourceFile reading.places.sourceLine)
    obtain ⟨resolved, again, same⟩ := resolved_entries_perm maps others rearranged _ _ matched
      reading.growth reading.resolved found
    have reread : readRow others.entries others.growth others.canonicalEntryIds members =
        .ok { reading with resolved } := (read_row_ok _ _ _ _ _).mpr ⟨fields, placed, controlled,
        resolve_growth_perm maps others rearranged _ _ _ grown, again, rest⟩
    obtain ⟨_, within⟩ := reading_resolved _ _ _ _ _ reread
    have count : resolved.length = reading.resolved.length := by
      rw [← List.length_map EntryFact.entryId, same, List.length_map]
    have made := mapM_ok.mp each
    apply bind_ok.mpr
    refine ⟨_, reread, mapM_ok.mpr (List.forall₂_iff_get.mpr ⟨?_, ?_⟩)⟩
    · exact count.trans made.length_eq
    · intro index first second
      have held : index < reading.resolved.length := count ▸ first
      have ids : (resolved.get ⟨index, first⟩).entryId =
          (reading.resolved.get ⟨index, held⟩).entryId := by
        have listed := congrArg (fun ids => ids[index]?) same
        simpa [first, held] using listed
      apply entry_proof_congr reading resolved (reading.resolved.get ⟨index, held⟩) _ _ count ids
      · apply entry_domain_reads _ _ _ _ (inside _ (List.get_mem _ _))
        exact matched.mem_iff.mpr (within _ (List.get_mem _ _))
      · exact (List.forall₂_iff_get.mp made).2 index held second

end DosWeb.Flows
