import DosWeb.CanonicalMembers
import DosWeb.Production.Association

/-!
What the parts of an association give: links and dispositions are built of filled texts, and the
entries of one registration stand for one entry where they have one pattern.
-/

namespace DosWeb.Production

open Library Library.JsonValue Library.Keyed Library.OrderedSet Identifiers
open Entries (EntryFact registrationIdentity registrationOrder registrationSiteIdentity
  semanticKey narrowedBy narrowed_filled narrowed_mem)
open Flows (FlowRow)
open Growth (CandidateEntryLink GrowthCandidate LinkStatus linkIdentity)

section

variable (growthId entryId : String) (status : LinkStatus) (evidenceIds reasonCodes : List String)

theorem link_created_iff (link : CandidateEntryLink) (someEvidence : evidenceIds ≠ [])
    (someReasons : reasonCodes ≠ []) :
    CandidateEntryLink.create growthId entryId status evidenceIds reasonCodes = .ok link ↔
      ("" ∉ evidenceIds ∧ "" ∉ reasonCodes) ∧ link.growthId = growthId ∧ link.entryId = entryId ∧
        link.status = status ∧ link.evidenceIds.values = sortedSet evidenceIds ∧
        link.reasonCodes.values = sortedSet reasonCodes := by
  unfold CandidateEntryLink.create
  simp only [bind_ok]
  constructor
  · intro run
    obtain ⟨leads, _, evidence, evidenceMade, reasons, reasonsMade, same⟩ := run
    obtain ⟨evidenceFilled, evidenceValues⟩ := filled_texts_of_ok _ _ _ evidenceMade
    obtain ⟨reasonsFilled, reasonsValues⟩ := filled_texts_of_ok _ _ _ reasonsMade
    cases same
    exact ⟨⟨evidenceFilled, reasonsFilled⟩, rfl, rfl, rfl, evidenceValues, reasonsValues⟩
  · intro known
    obtain ⟨⟨evidenceFilled, reasonsFilled⟩, rfl, rfl, rfl, evidenceValues, reasonsValues⟩ := known
    obtain ⟨evidence, evidenceMade, evidenceSame⟩ :=
      filled_texts_of_total evidenceIds "evidence_ids" evidenceFilled someEvidence
    obtain ⟨reasons, reasonsMade, reasonsSame⟩ :=
      filled_texts_of_total reasonCodes "reason_codes" reasonsFilled someReasons
    have leads : Text.startsWith link.growthId "growth:" = true ∧
        Text.startsWith link.entryId "entry:" = true := ⟨link.growthIdStarts, link.entryIdStarts⟩
    have ownEvidence : evidence.1 = link.evidenceIds :=
      TextSet.ext_values _ _ (evidenceSame.trans evidenceValues.symm)
    have ownReasons : reasons.1 = link.reasonCodes :=
      TextSet.ext_values _ _ (reasonsSame.trans reasonsValues.symm)
    refine ⟨⟨leads⟩, (ensure_ok _ _ _).mpr leads, evidence, evidenceMade, reasons, reasonsMade, ?_⟩
    obtain ⟨linkId, growthId, entryId, status, evidenceIds, reasonCodes, _, _, _, _, canonical⟩ :=
      link
    subst ownEvidence ownReasons canonical
    rfl

theorem link_id_starts (link : CandidateEntryLink) :
    Text.startsWith link.linkId "candidate_link:" = true := by
  rw [link.idCanonical]
  exact stable_identifier_starts "candidate_link" _

theorem link_created (growthStarts : Text.startsWith growthId "growth:" = true)
    (entryStarts : Text.startsWith entryId "entry:" = true) (evidence : "" ∉ evidenceIds)
    (reasons : "" ∉ reasonCodes) (someEvidence : evidenceIds ≠ [])
    (someReasons : reasonCodes ≠ []) :
    ∃ link, CandidateEntryLink.create growthId entryId status evidenceIds reasonCodes = .ok link := by
  obtain ⟨own, ownMade, _⟩ := filled_texts_of_total evidenceIds "evidence_ids" evidence someEvidence
  obtain ⟨codes, codesMade, _⟩ := filled_texts_of_total reasonCodes "reason_codes" reasons someReasons
  unfold CandidateEntryLink.create
  simp only [bind_ok]
  exact ⟨_, ⟨growthStarts, entryStarts⟩, (ensure_ok _ _ _).mpr ⟨growthStarts, entryStarts⟩, own,
    ownMade, codes, codesMade, rfl⟩

theorem canonical_of_filled (links : List CandidateEntryLink) (filled : canonicalOf links ≠ "") :
    ∃ link, links = [link] ∧ canonicalOf links = link.entryId := by
  unfold canonicalOf at filled ⊢
  split at filled
  · exact ⟨_, rfl, rfl⟩
  · exact absurd rfl filled

theorem association_cites_no_proof (candidate : GrowthCandidate)
    (links : List CandidateEntryLink) : ∀ identifier ∈ associationEvidence candidate links,
      identifier ≠ "" ∧ negativeProofId identifier = false := by
  intro identifier inside
  have led : ∀ text lead, lead ≠ "" → Text.startsWith text lead = true →
      (Text.startsWith lead "negative_proof:" || Text.startsWith "negative_proof:" lead) = false →
      text ≠ "" ∧ negativeProofId text = false :=
    fun text lead filled starts apart => ⟨Text.startsWith_nonempty _ _ filled starts,
      Text.startsWith_other _ _ _ starts apart⟩
  rcases List.mem_append.mp inside with earlier | entry
  · rcases List.mem_append.mp earlier with fact | linked
    · have shape := candidate.evidenceValid identifier fact
      rw [Growth.evidenceShape, Bool.and_eq_true, Bool.and_eq_true] at shape
      exact led _ "fact:" (by decide) shape.1.1 (by decide)
    · obtain ⟨link, _, rfl⟩ := List.mem_map.mp linked
      exact led _ "candidate_link:" (by decide) (link_id_starts link) (by decide)
  · split at entry
    · rename_i filled
      obtain ⟨link, _, same⟩ := canonical_of_filled links filled
      rw [List.mem_singleton.mp entry, same]
      exact led _ "entry:" (by decide) link.entryIdStarts (by decide)
    · cases entry

theorem association_disposition_total (candidate : GrowthCandidate)
    (links : List CandidateEntryLink) (associationStatus : AssociationStatus)
    (reasonCodes : List String) (filled : "" ∉ reasonCodes) (some_ : reasonCodes ≠ []) :
    ∃ disposition, associationDisposition candidate links associationStatus reasonCodes =
      .ok disposition ∧ disposition.associationStatus = associationStatus := by
  have cited := association_cites_no_proof candidate links
  have evidenceFilled : "" ∉ associationEvidence candidate links :=
    fun inside => (cited "" inside).1 rfl
  have linksFilled : "" ∉ links.map CandidateEntryLink.linkId := fun inside => evidenceFilled
    (List.mem_append_left _ (List.mem_append_right _ inside))
  obtain ⟨linkIds, linksMade, linksSame⟩ := texts_of_total _ "link_ids" linksFilled
  obtain ⟨evidence, evidenceMade, evidenceSame⟩ := texts_of_total _ "evidence_ids" evidenceFilled
  obtain ⟨reasons, reasonsMade, reasonsSame⟩ := texts_of_total reasonCodes "reason_codes" filled
  have uncited : evidence.values.filter negativeProofId = [] := by
    rw [evidenceSame, List.filter_eq_nil_iff]
    intro identifier inside
    rw [(cited identifier ((mem_sortedSet _ _).mp inside)).2]
    exact Bool.false_ne_true
  have evidenceGiven : evidence.values ≠ [] := by
    rw [evidenceSame, Ne, sortedSet_eq_nil, associationEvidence]
    simp [candidate.evidenceRequired]
  have reasonsGiven : reasons.values ≠ [] := by
    rw [reasonsSame, Ne, sortedSet_eq_nil]
    exact some_
  obtain ⟨disposition, made, same⟩ := disposition_ok {
      growthId := candidate.growthId
      status := associationEligibility (canonicalOf links) (localStatusOf candidate)
        associationStatus
      canonicalEntryId := canonicalOf links
      localGrowthStatus := localStatusOf candidate
      associationStatus, linkIds
      evidenceIds := evidence
      negativeProofIds := .empty
      reasonCodes := reasons }
    (by
      refine ⟨candidate.growth_id_starts, ?_⟩
      intro held
      obtain ⟨link, _, own⟩ := canonical_of_filled links held
      simp only [own]
      exact link.entryIdStarts)
    ⟨evidenceGiven, reasonsGiven⟩ rfl
    (by
      intro eligible
      by_cases held : canonicalOf links ≠ ""
      · obtain ⟨link, sole, _⟩ := canonical_of_filled links held
        refine ⟨?_, held⟩
        simp only [linksSame, sole]
        rfl
      · simp [associationEligibility, held, DispositionStatus.eligible] at eligible)
    (by
      intro formal
      simp only [associationEligibility] at formal
      split at formal
      · split at formal
        · rename_i complete
          exact ⟨complete.1, complete.2, rfl⟩
        · cases formal
      · cases formal)
    (by
      intro gap
      simp only [associationEligibility] at gap
      split at gap
      · split at gap
        · cases gap
        · rename_i linked incomplete
          refine ⟨?_, linked.2, incomplete, rfl⟩
          unfold localStatusOf
          split
          · exact Or.inl rfl
          · exact Or.inr rfl
      · cases gap)
    (by
      intro rejected
      simp only [associationEligibility] at rejected
      split at rejected
      · split at rejected <;> cases rejected
      · cases rejected)
    (fun _ => ⟨rfl, uncited⟩)
  refine ⟨disposition, ?_, by rw [same]⟩
  exact bind_ok.mpr ⟨linkIds, linksMade, bind_ok.mpr ⟨evidence, evidenceMade,
    bind_ok.mpr ⟨reasons, reasonsMade, made⟩⟩⟩

end

section

variable (candidate : GrowthCandidate) (matched : List EntryFact)

theorem argmin_found {β : Type} [LinearOrder β] (order : EntryFact → β) (entries : List EntryFact)
    (filled : entries ≠ []) : ∃ entry, entries.argmin order = some entry := by
  apply Option.ne_none_iff_exists'.mp
  intro none_
  exact filled (List.argmin_eq_none.mp none_)

theorem canonical_match_error (raised : Raised)
    (failed : canonicalMatch candidate matched = .error raised) :
    raised = entryAmbiguous candidate (narrowedBy candidate.demandNames matched).length := by
  unfold canonicalMatch at failed
  simp only at failed
  split at failed
  · cases failed
  · split at failed
    · cases failed
    · cases failed
      rfl

theorem canonical_match_of_one (filled : matched ≠ [])
    (one : oneValue ((narrowedBy candidate.demandNames matched).map semanticKey) = true ∨
      oneValue ((narrowedBy candidate.demandNames matched).map registrationIdentity) = true) :
    ∃ entry, canonicalMatch candidate matched = .ok entry := by
  have kept := narrowed_filled candidate.demandNames matched filled
  obtain ⟨first, firstFound⟩ := argmin_found registrationOrder _ kept
  obtain ⟨second, secondFound⟩ := argmin_found EntryFact.entryId _ kept
  unfold canonicalMatch
  simp only
  split
  · exact ⟨_, rfl⟩
  · by_cases semantic : oneValue ((narrowedBy candidate.demandNames matched).map semanticKey) = true
    · rw [if_pos semantic, firstFound]
      exact ⟨first, rfl⟩
    · rw [if_neg semantic, if_pos (one.resolve_left semantic), secondFound]
      exact ⟨second, rfl⟩

/-- Entries of one registration stand for one entry exactly where they have one pattern. -/
theorem canonical_match_iff (filled : matched ≠ []) (site : ∀ left ∈ matched, ∀ right ∈ matched,
      registrationSiteIdentity left = registrationSiteIdentity right) :
    (∃ entry, canonicalMatch candidate matched = .ok entry) ↔
      ∀ left ∈ narrowedBy candidate.demandNames matched,
        ∀ right ∈ narrowedBy candidate.demandNames matched,
          left.registrationPatternId = right.registrationPatternId := by
  have kept := narrowed_filled candidate.demandNames matched filled
  have inside := narrowed_mem candidate.demandNames matched
  constructor
  · intro found left leftHeld right rightHeld
    obtain ⟨entry, found⟩ := found
    unfold canonicalMatch at found
    simp only at found
    split at found
    · rename_i own same
      rw [same] at leftHeld rightHeld
      rw [List.mem_singleton.mp leftHeld, List.mem_singleton.mp rightHeld]
    · split at found
      · rename_i least
        split at least
        · rename_i one
          have agree := (one_value_agree _ (by simpa using kept)).mp one _
            (List.mem_map_of_mem leftHeld) _ (List.mem_map_of_mem rightHeld)
          exact congrArg Entries.SemanticKey.registrationPatternId agree
        · split at least
          · rename_i one
            have agree := (one_value_agree _ (by simpa using kept)).mp one _
              (List.mem_map_of_mem leftHeld) _ (List.mem_map_of_mem rightHeld)
            exact congrArg Prod.snd agree
          · cases least
      · cases found
  · intro agree
    apply canonical_match_of_one candidate matched filled
    apply Or.inr
    apply (one_value_agree _ (by simpa using kept)).mpr
    intro left leftHeld right rightHeld
    obtain ⟨first, firstHeld, rfl⟩ := List.mem_map.mp leftHeld
    obtain ⟨second, secondHeld, rfl⟩ := List.mem_map.mp rightHeld
    have registration : first.registration = second.registration :=
      congrArg Entries.RegistrationSite.registration
        (site first (inside first firstHeld) second (inside second secondHeld))
    rw [registrationIdentity, registrationIdentity, registration,
      agree first firstHeld second secondHeld]

end

section

variable (candidate : GrowthCandidate) (flowRows : List FlowRow)

theorem unlinked_total (associationStatus : AssociationStatus) (reason : String)
    (filled : reason ≠ "") : ∃ association, unlinked candidate associationStatus reason =
      .ok association ∧ association.2.associationStatus = associationStatus := by
  obtain ⟨disposition, made, same⟩ := association_disposition_total candidate [] associationStatus
    [reason] (by simpa using Ne.symm filled) (List.cons_ne_nil _ _)
  exact ⟨([], disposition), bind_ok.mpr ⟨disposition, made, rfl⟩, same⟩

theorem evidence_of_link (entry : EntryFact) : "" ∉ [candidate.growthId, entry.entryId] := by
  have growth := Text.startsWith_nonempty _ _ (by decide) candidate.growth_id_starts
  have own := Text.startsWith_nonempty _ _ (by decide) entry.entry_id_starts
  simp [Ne.symm growth, Ne.symm own]

theorem legacy_linked_total (matched : List EntryFact) :
    ∃ association, legacyLinked candidate flowRows matched = .ok association := by
  unfold legacyLinked
  simp only
  generalize reason : (if (matched.any fun entry =>
    !entryCandidateHasFormalFlow candidate entry flowRows) = true then ["FLOW_CODEQL_ROW_MISSING"]
    else []) = flowReason
  have reasonFilled : "" ∉ flowReason := by
    subst reason
    split <;> decide
  have each : ∀ entry ∈ matched, ∃ link, CandidateEntryLink.create candidate.growthId entry.entryId
      .partialLink [candidate.growthId, entry.entryId]
      ("ASSOCIATION_LEGACY_SOURCE_ORDER_PARTIAL" :: flowReason) = .ok link := by
    intro entry _
    apply link_created _ _ _ _ _ candidate.growth_id_starts entry.entry_id_starts
      (evidence_of_link candidate entry)
    · simp [reasonFilled]
    · exact List.cons_ne_nil _ _
    · exact List.cons_ne_nil _ _
  obtain ⟨links, made⟩ := mapM_total _ matched each
  obtain ⟨disposition, own, _⟩ := association_disposition_total candidate links
    (if links.length = 1 then .partialLink else .ambiguous)
    ("ASSOCIATION_CALL_GRAPH_UNAVAILABLE" :: flowReason) (by simp [reasonFilled])
    (List.cons_ne_nil _ _)
  exact ⟨(links, disposition), bind_ok.mpr ⟨links, made, bind_ok.mpr ⟨disposition, own, rfl⟩⟩⟩

theorem associate_nearest_total (matched : List EntryFact) :
    ∃ association, associateNearest candidate flowRows matched = .ok association := by
  unfold associateNearest
  split
  · exact legacy_linked_total candidate flowRows _
  · exact legacy_linked_total candidate flowRows _
  · split
    · exact legacy_linked_total candidate flowRows _
    · rename_i error failed
      cases canonical_match_error candidate _ _ failed
      rw [if_pos rfl]
      obtain ⟨association, made, _⟩ := unlinked_total candidate .ambiguous
        "ASSOCIATION_ENTRY_FANOUT_PARTITION_AMBIGUOUS" (by decide)
      exact ⟨association, made⟩
    · rename_i raised plain failed
      exact absurd (canonical_match_error candidate _ _ failed) (plain _)

end

section

variable (candidate : GrowthCandidate) (linked : List (EntryFact × CandidateEntryLink))

theorem canonical_linked_total (entryId : String) (status : LinkStatus) (reasonCodes : List String)
    (starts : Text.startsWith entryId "entry:" = true) (filled : "" ∉ reasonCodes)
    (some_ : reasonCodes ≠ []) : ∃ association,
      canonicalLinked candidate entryId status reasonCodes = .ok association ∧
        association.2.associationStatus = statusOfLink status := by
  have growth := Text.startsWith_nonempty _ _ (by decide) candidate.growth_id_starts
  have own := Text.startsWith_nonempty _ _ (by decide) starts
  have evidence : "" ∉ [candidate.growthId, entryId] := by
    simp [Ne.symm growth, Ne.symm own]
  obtain ⟨link, made⟩ := link_created candidate.growthId entryId status _ reasonCodes
    candidate.growth_id_starts starts evidence filled (List.cons_ne_nil _ _) some_
  have known := (link_created_iff _ _ _ _ _ link (List.cons_ne_nil _ _) some_).mp made
  obtain ⟨disposition, built, same⟩ := association_disposition_total candidate [link]
    (statusOfLink link.status) ("ASSOCIATION_QUERY_EVIDENCE" :: link.reasonCodes.values)
    (by simp [link.reasonCodes.filled]) (List.cons_ne_nil _ _)
  refine ⟨([link], disposition), ?_, ?_⟩
  · exact bind_ok.mpr ⟨link, made, bind_ok.mpr ⟨disposition, built, rfl⟩⟩
  · rw [same, known.2.2.2.1]

theorem link_reasons_filled : "" ∉ linkReasons linked := by
  intro inside
  obtain ⟨pair, _, held⟩ := List.mem_flatMap.mp inside
  exact pair.2.reasonCodes.filled held

theorem associate_base (shared : sharedSite linked = true) (base : EntryFact × CandidateEntryLink)
    (alone : (linked.filter fun pair => nettyBase pair.1) = [base]) : ∃ association,
      associateLinked candidate linked = .ok association ∧
        association.2.associationStatus = statusOfLink base.2.status := by
  unfold associateLinked
  rw [if_pos shared, alone]
  exact canonical_linked_total candidate _ _ _ base.2.entryIdStarts
    (by simp [base.2.reasonCodes.filled]) (List.cons_ne_nil _ _)

section

variable (shared : sharedSite linked = true)
  (several : ∀ base, (linked.filter fun pair => nettyBase pair.1) ≠ [base])

include shared several

theorem associate_other (entry : EntryFact)
    (found : canonicalMatch candidate (linked.map Prod.fst) = .ok entry) : ∃ association,
      associateLinked candidate linked = .ok association ∧
        association.2.associationStatus = statusOfLink
          (if linked.all fun pair => pair.2.status = .complete then .complete else .partialLink) := by
  unfold associateLinked
  rw [if_pos shared]
  split
  · rename_i base same
    exact absurd same (several base)
  · rw [found]
    exact canonical_linked_total candidate _ _ _ entry.entry_id_starts
      (by simp [link_reasons_filled]) (List.cons_ne_nil _ _)

theorem associate_stuck (lost : ∀ entry, canonicalMatch candidate (linked.map Prod.fst) ≠ .ok entry)
    (association : Association) : associateLinked candidate linked ≠ .ok association := by
  intro ran
  unfold associateLinked at ran
  rw [if_pos shared] at ran
  split at ran
  · rename_i base same
    exact several base same
  · obtain ⟨entry, found, _⟩ := bind_ok.mp ran
    exact lost entry found

end

theorem associate_unshared (unshared : sharedSite linked = false) : ∃ association,
    associateLinked candidate linked = .ok association ∧
      (∀ pair, linked = [pair] → association.2.associationStatus = statusOfLink pair.2.status) ∧
      ((∀ pair, linked ≠ [pair]) → association.2.associationStatus = .ambiguous) := by
  unfold associateLinked
  rw [if_neg (by simp [unshared])]
  split
  · rename_i many
    obtain ⟨association, made, same⟩ := unlinked_total candidate .ambiguous
      "ASSOCIATION_ENTRY_FANOUT_PARTITION_AMBIGUOUS" (by decide)
    refine ⟨association, made, ?_, fun _ => same⟩
    intro pair sole
    rw [sole, List.length_singleton] at many
    omega
  · obtain ⟨disposition, made, same⟩ := association_disposition_total candidate
      (linked.map Prod.snd) (soleStatus linked)
      ("ASSOCIATION_QUERY_EVIDENCE" :: linkReasons linked) (by simp [link_reasons_filled])
      (List.cons_ne_nil _ _)
    refine ⟨(linked.map Prod.snd, disposition), bind_ok.mpr ⟨disposition, made, rfl⟩, ?_, ?_⟩
    · intro pair sole
      rw [same, sole]
      rfl
    · intro several
      rw [same, soleStatus.eq_def]
      split
      · rename_i pair _
        exact absurd rfl (several pair)
      · rfl

end

variable (candidate : GrowthCandidate) (flowRows : List FlowRow)

def linkSemantics (link : CandidateEntryLink) : Members Empty :=
  linkIdentity link.growthId link.entryId link.status link.evidenceIds.values link.reasonCodes.values

theorem link_semantics_distinct (link : CandidateEntryLink) :
    DistinctKeys (.obj (linkSemantics link)) := by
  have texts : ∀ values : List String, DistinctKeys (.arr (values.map .str) : PlainJson) := by
    intro values
    apply (distinctItems_iff _).mpr
    intro item inside
    obtain ⟨text, _, rfl⟩ := List.mem_map.mp inside
    trivial
  refine ⟨?_, trivial, trivial, trivial, texts _, texts _, trivial⟩
  change ["growth_id", "entry_id", "status", "evidence_ids", "reason_codes"].Nodup
  decide

theorem normal_text_list (left right : List String)
    (same : JsonValue.normalize (.arr (left.map .str) : PlainJson) =
      JsonValue.normalize (.arr (right.map .str))) : left = right := by
  rw [JsonValue.normalize, JsonValue.normalize, Json.arr.injEq, normalizeItems_eq_map,
    normalizeItems_eq_map, List.map_map, List.map_map] at same
  exact List.map_injective_iff.mpr (fun one other equal => Json.str.inj equal) same

theorem link_ext (left right : CandidateEntryLink) (growth : left.growthId = right.growthId)
    (entry : left.entryId = right.entryId) (status : left.status = right.status)
    (evidence : left.evidenceIds.values = right.evidenceIds.values)
    (reasons : left.reasonCodes.values = right.reasonCodes.values) : left = right := by
  have ownEvidence := TextSet.ext_values _ _ evidence
  have ownReasons := TextSet.ext_values _ _ reasons
  obtain ⟨_, _, _, _, _, _, _, _, _, _, leftCanonical⟩ := left
  obtain ⟨_, _, _, _, _, _, _, _, _, _, rightCanonical⟩ := right
  simp only at growth entry status ownEvidence ownReasons
  subst growth entry status ownEvidence ownReasons leftCanonical rightCanonical
  rfl

theorem link_of_semantics (left right : CandidateEntryLink)
    (same : canonicalJson (.obj (linkSemantics left) : PlainJson) =
      canonicalJson (.obj (linkSemantics right))) : left = right := by
  have each := canonical_get _ _ (link_semantics_distinct left) (link_semantics_distinct right) same
  apply link_ext
  · exact Json.str.inj (each "growth_id")
  · exact Json.str.inj (each "entry_id")
  · have texts := Json.str.inj (each "status")
    revert texts
    cases left.status <;> cases right.status <;> decide
  · exact normal_text_list _ _ (each "evidence_ids")
  · exact normal_text_list _ _ (each "reason_codes")

variable (matched : FlowRow × EntryFact)

theorem match_reasons_filled_iff :
    "" ∉ matchReasons candidate flowRows matched ↔ matched.1.coverageNote ≠ "" := by
  have rest : "" ∉ (if (associationRowRoute matched.1).isSome then
        ["ASSOCIATION_QUERY_ROUTE_ALIAS_MATCHED"] else []) ++
      if formalFlowRowMatches candidate matched.1 flowRows = false then ["FLOW_CODEQL_ROW_MISSING"]
      else if claimedComplete matched.1 && !formalFlowWitness candidate matched.2 matched.1 flowRows
        then ["FLOW_FORMAL_PROOF_INCOMPLETE"]
      else [] := by
    rw [List.mem_append, not_or]
    constructor
    · split <;> decide
    · split
      · decide
      · split <;> decide
  rw [matchReasons, List.append_assoc, List.mem_append, List.mem_singleton, not_or]
  exact ⟨fun both => Ne.symm both.1, fun noted => ⟨Ne.symm noted, rest⟩⟩

theorem match_reasons_some : matchReasons candidate flowRows matched ≠ [] := by
  rw [matchReasons, List.append_assoc]
  exact List.cons_ne_nil _ _

theorem match_link_iff (pair : EntryFact × CandidateEntryLink) :
    matchLink candidate flowRows matched = .ok pair ↔
      matched.1.coverageNote ≠ "" ∧ pair.1 = matched.2 ∧ pair.2.growthId = candidate.growthId ∧
        pair.2.entryId = matched.2.entryId ∧
        pair.2.status = matchStatus candidate flowRows matched ∧
        pair.2.evidenceIds.values = sortedSet [candidate.growthId, matched.2.entryId] ∧
        pair.2.reasonCodes.values = sortedSet (matchReasons candidate flowRows matched) := by
  unfold matchLink
  simp only [bind_ok, link_created_iff _ _ _ _ _ _ (List.cons_ne_nil _ _)
    (match_reasons_some candidate flowRows matched)]
  rw [match_reasons_filled_iff]
  constructor
  · intro run
    obtain ⟨link, ⟨⟨_, noted⟩, rest⟩, same⟩ := run
    cases same
    exact ⟨noted, rfl, rest⟩
  · intro known
    obtain ⟨noted, own, rest⟩ := known
    refine ⟨pair.2, ⟨⟨evidence_of_link candidate matched.2, noted⟩, rest⟩, ?_⟩
    rw [← own]
    rfl

theorem match_link_total :
    (∃ pair, matchLink candidate flowRows matched = .ok pair) ↔ matched.1.coverageNote ≠ "" := by
  constructor
  · intro known
    obtain ⟨pair, made⟩ := known
    exact ((match_link_iff candidate flowRows matched pair).mp made).1
  · intro noted
    obtain ⟨link, made⟩ := link_created candidate.growthId matched.2.entryId
      (matchStatus candidate flowRows matched) _ (matchReasons candidate flowRows matched)
      candidate.growth_id_starts matched.2.entry_id_starts (evidence_of_link candidate matched.2)
      ((match_reasons_filled_iff candidate flowRows matched).mpr noted) (List.cons_ne_nil _ _)
      (match_reasons_some candidate flowRows matched)
    exact ⟨(matched.2, link), bind_ok.mpr ⟨link, made, rfl⟩⟩

/-- The matches make one claim: one entry, one status and the same reasons. -/
structure SameClaim (left right : FlowRow × EntryFact) : Prop where
  entry : left.2 = right.2
  status : matchStatus candidate flowRows left = matchStatus candidate flowRows right
  reasons : ∀ reason, reason ∈ matchReasons candidate flowRows left ↔
    reason ∈ matchReasons candidate flowRows right

theorem same_claim_iff (left right : FlowRow × EntryFact) (one other : EntryFact × CandidateEntryLink)
    (leftMade : matchLink candidate flowRows left = .ok one)
    (rightMade : matchLink candidate flowRows right = .ok other) :
    one = other ↔ SameClaim candidate flowRows left right := by
  obtain ⟨_, leftEntry, leftGrowth, leftId, leftStatus, leftEvidence, leftReasons⟩ :=
    (match_link_iff candidate flowRows left one).mp leftMade
  obtain ⟨_, rightEntry, rightGrowth, rightId, rightStatus, rightEvidence, rightReasons⟩ :=
    (match_link_iff candidate flowRows right other).mp rightMade
  constructor
  · intro same
    subst same
    refine ⟨leftEntry.symm.trans rightEntry, leftStatus.symm.trans rightStatus, ?_⟩
    intro reason
    rw [← mem_sortedSet, ← leftReasons, rightReasons, mem_sortedSet]
  · intro claim
    apply Prod.ext
    · rw [leftEntry, rightEntry, claim.entry]
    · apply link_ext
      · rw [leftGrowth, rightGrowth]
      · rw [leftId, rightId, claim.entry]
      · rw [leftStatus, rightStatus, claim.status]
      · rw [leftEvidence, rightEvidence, claim.entry]
      · rw [leftReasons, rightReasons]
        exact sortedSet_congr _ _ claim.reasons

theorem status_iff (left right : FlowRow × EntryFact) :
    matchStatus candidate flowRows left = matchStatus candidate flowRows right ↔
      witnessed candidate flowRows left = witnessed candidate flowRows right := by
  unfold matchStatus
  cases witnessed candidate flowRows left <;> cases witnessed candidate flowRows right <;> simp

end DosWeb.Production
