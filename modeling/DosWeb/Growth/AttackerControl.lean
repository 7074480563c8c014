import DosWeb.Growth.Evidence
import DosWeb.Growth.Relevance

/-!
The relevance of a candidate as the entry gains attacker inputs: only the size of a direct
allocation loses its origin, where two inputs meet in one demand.
-/

namespace DosWeb.Growth

open Library Identifiers
open Entries (EntryFact sampleEntry)
open Flows (identifierTokens)

def inputNames (entry : EntryFact) : List String :=
  entry.attackerInputs.map fun input => input.name.1

/-- The identifiers of a demand that are inputs of the entry. -/
def namedTokens (entry : EntryFact) (demand : DemandInput) : List String :=
  ((identifierTokens [] demand.name.1.toList).map String.ofList).dedup.filter
    fun token => (inputNames entry).contains token

theorem demand_matches_iff (entry : EntryFact) (candidate : GrowthCandidate) :
    demandMatchesEntry entry candidate = true ↔ ∃ demand ∈ candidate.demandInputs,
      demand.name.1 ∈ inputNames entry ∨ (namedTokens entry demand).length = 1 := by
  unfold demandMatchesEntry
  simp only [List.any_eq_true, Bool.or_eq_true, List.contains_iff_mem, decide_eq_true_eq]
  rfl

/-- The entry with more attacker inputs, everything else being the same. -/
structure Richer (entry richer : EntryFact) : Prop where
  frameworks : richer.framework = entry.framework
  protocols : richer.protocol = entry.protocol
  handlers : richer.handler = entry.handler
  registrations : richer.registration = entry.registration
  patterns : richer.registrationPatternId = entry.registrationPatternId
  routes : richer.routeOrEvent = entry.routeOrEvent
  contexts : richer.authContext = entry.authContext
  phases : richer.materializationPhase = entry.materializationPhase
  inputs : entry.attackerInputs ⊆ richer.attackerInputs

theorem Richer.names {entry richer : EntryFact} (more : Richer entry richer) :
    inputNames entry ⊆ inputNames richer := List.map_subset _ more.inputs

def readdressed (entry richer : EntryFact) (link : CandidateEntryLink) : CandidateEntryLink :=
  if link.entryId = entry.entryId then
    { linkId := stableIdentifier "candidate_link" (linkIdentity link.growthId richer.entryId
        link.status link.evidenceIds.values link.reasonCodes.values)
      growthId := link.growthId
      entryId := richer.entryId
      status := link.status
      evidenceIds := link.evidenceIds
      reasonCodes := link.reasonCodes
      growthIdStarts := link.growthIdStarts
      entryIdStarts := richer.entry_id_starts
      evidenceRequired := link.evidenceRequired
      reasonsRequired := link.reasonsRequired
      idCanonical := rfl }
  else link

def Relevant (status : RelevanceStatus) : Prop :=
  status = .contractEligible ∨ status = .dosRelevantPartial

theorem relevant_iff (status : RelevanceStatus) :
    Relevant status ↔ status ≠ .rejected ∧ status ≠ .unresolved := by
  unfold Relevant
  cases status <;> decide

section

structure Screened (candidate : GrowthCandidate) : Prop where
  outside : testOrBenchmarkPath candidate.site.file.1 = false
  sized : ¬ (candidate.kind = .directAllocation ∧ candidate.coverageNotes.values ≠ [] ∧
    ∀ note ∈ candidate.coverageNotes.values, note ∈ serverControlledAllocationNotes)
  unmarked : ¬ Marked candidate benignMarkers

/-- The one link of a candidate, between it and the entry. -/
def LinkedTo (entry : EntryFact) (candidate : GrowthCandidate) (links : List CandidateEntryLink)
    (link : CandidateEntryLink) : Prop :=
  links = [link] ∧ link.entryId = entry.entryId ∧ link.growthId = candidate.growthId

variable (entry : EntryFact) (candidate : GrowthCandidate) (links : List CandidateEntryLink)

theorem canonical_link_iff (link : CandidateEntryLink) :
    canonicalLink (some entry) candidate links = some link ↔
      LinkedTo entry candidate links link := by
  unfold canonicalLink LinkedTo
  match links with
  | [] => simp
  | [only] =>
    by_cases apart : only.entryId ≠ entry.entryId ∨ only.growthId ≠ candidate.growthId
    · simp only [if_pos apart, reduceCtorEq, List.cons.injEq, and_true, false_iff]
      rintro ⟨rfl, sameEntry, sameGrowth⟩
      exact apart.elim (fun other => other sameEntry) fun other => other sameGrowth
    · simp only [if_neg apart, Option.some_inj, List.cons.injEq, and_true]
      have same := not_or.mp apart
      constructor
      · rintro rfl
        exact ⟨rfl, not_not.mp same.1, not_not.mp same.2⟩
      · exact fun linked => linked.1
  | _ :: _ :: _ => simp

theorem rejected_if_complete_irrelevant (candidate : GrowthCandidate) (reason : RelevanceReason)
    (otherwise : AmplificationClass × RelevanceReason) :
    ¬ Relevant (rejectedIfComplete candidate reason otherwise).status := by
  rw [relevant_iff]
  unfold rejectedIfComplete
  split
  · exact fun kept => kept.1 rfl
  · exact fun kept => kept.2 rfl

theorem evaluated_relevant_iff :
    Relevant (evaluateCandidateRelevance (some entry) candidate links).status ↔
      Screened candidate ∧ ∃ link, LinkedTo entry candidate links link ∧
        Relevant (familyRelevance entry candidate (link.status ≠ .complete)).status := by
  have benign := benign_noted_iff candidate
  simp only [benignMarkers, List.mem_cons, List.not_mem_nil, or_false, exists_eq_or_imp,
    exists_eq_left] at benign
  rw [← benignMarkers] at benign
  have screened := rejected_if_complete_irrelevant candidate
  unfold evaluateCandidateRelevance
  split
  · rename_i many
    apply iff_of_false (fun relevant => ((relevant_iff _).mp relevant).2 rfl)
    rintro ⟨-, link, ⟨rfl, -⟩, -⟩
    exact absurd many (by simp)
  split
  · rename_i inside
    apply iff_of_false (fun relevant => ((relevant_iff _).mp relevant).1 rfl)
    rintro ⟨kept, -⟩
    rw [kept.outside] at inside
    cases inside
  rename_i outside
  split
  · rename_i server
    apply iff_of_false (screened _ _)
    rintro ⟨kept, -⟩
    apply kept.sized
    refine ⟨server.1, server.2.1, ?_⟩
    intro note member
    exact List.contains_iff_mem.mp (List.all_eq_true.mp server.2.2 note member)
  rename_i unsized
  split
  · rename_i held
    exact iff_of_false (screened _ _) fun both => both.1.unmarked (benign.mp (by simp [held]))
  rename_i first
  split
  · rename_i held
    exact iff_of_false (screened _ _) fun both => both.1.unmarked (benign.mp (by simp [held]))
  rename_i second
  split
  · rename_i held
    simp only [List.any_cons, List.any_nil, Bool.or_false, Bool.or_eq_true] at held
    exact iff_of_false (screened _ _) fun both => both.1.unmarked (benign.mp (by simp [held]))
  rename_i third
  simp only [List.any_cons, List.any_nil, Bool.or_false, Bool.or_eq_true] at third
  have kept : Screened candidate := by
    refine ⟨Bool.eq_false_iff.mpr outside, ?_, ?_⟩
    · rintro ⟨kind, some_, all⟩
      apply unsized
      refine ⟨kind, some_, List.all_eq_true.mpr ?_⟩
      intro note member
      exact List.contains_iff_mem.mpr (all note member)
    · rw [← benign]
      simp [first, second, third]
  cases found : canonicalLink (some entry) candidate links with
  | none =>
    apply iff_of_false (fun relevant => ((relevant_iff _).mp relevant).2 rfl)
    rintro ⟨-, link, linked, -⟩
    rw [(canonical_link_iff entry candidate links link).mpr linked] at found
    cases found
  | some link =>
    have linked := (canonical_link_iff entry candidate links link).mp found
    constructor
    · intro relevant
      exact ⟨kept, link, linked, relevant⟩
    · rintro ⟨-, other, same, relevant⟩
      have one := linked.1.symm.trans same.1
      cases one
      exact relevant

end

theorem partial_or_eligible_relevant (candidate : GrowthCandidate)
    (amplification : AmplificationClass) (reason : RelevanceReason) :
    Relevant (partialOrEligible candidate amplification reason).status := by
  unfold partialOrEligible
  split
  · exact Or.inl rfl
  · exact Or.inr rfl

theorem allocation_relevant_iff (entry : EntryFact) (candidate : GrowthCandidate)
    (associationPartial : Bool) :
    Relevant (allocationRelevance entry candidate associationPartial).status ↔
      noted candidate "request_derived_size" = true ∨
        demandMatchesEntry entry candidate = true := by
  unfold allocationRelevance
  rw [← Bool.or_eq_true]
  dsimp only
  cases noted candidate "request_derived_size" || demandMatchesEntry entry candidate with
  | false => exact iff_of_false (by rintro (held | held) <;> cases held) Bool.false_ne_true
  | true =>
    cases associationPartial with
    | false => exact iff_of_true (partial_or_eligible_relevant _ _ _) rfl
    | true => exact iff_of_true (Or.inr rfl) rfl

theorem retention_relevant_iff (entry : EntryFact) (candidate : GrowthCandidate)
    (associationPartial : Bool) :
    Relevant (retentionRelevance entry candidate associationPartial).status ↔
      ((candidate.escapeScope = .instance_ || candidate.escapeScope = .global) &&
        (noted candidate "field" ||
          Text.endsWith candidate.receiver.1 ("." ++ candidate.fieldPath.1))) = true := by
  unfold retentionRelevance
  dsimp only
  generalize ((candidate.escapeScope = .instance_ || candidate.escapeScope = .global) &&
    (noted candidate "field" ||
      Text.endsWith candidate.receiver.1 ("." ++ candidate.fieldPath.1)) : Bool) = fieldBacked
  cases fieldBacked with
  | false => exact iff_of_false (by rintro (held | held) <;> cases held) Bool.false_ne_true
  | true =>
    apply iff_of_true _ rfl
    split
    · exact partial_or_eligible_relevant _ _ _
    · exact Or.inr rfl

theorem family_relevant_same (left right : EntryFact) (candidate : GrowthCandidate)
    (associationPartial : Bool) (other : candidate.kind ≠ .directAllocation) :
    Relevant (familyRelevance left candidate associationPartial).status ↔
      Relevant (familyRelevance right candidate associationPartial).status := by
  unfold familyRelevance
  cases kind : candidate.kind with
  | inputMaterialization => exact Iff.rfl
  | directAllocation => exact absurd kind other
  | containerGrowth =>
    dsimp only
    unfold containerRelevance
    split
    · exact Iff.rfl
    · split
      · exact Iff.rfl
      · rw [retention_relevant_iff, retention_relevant_iff]
  | asyncWorkGrowth => exact Iff.rfl

/-- A direct allocation that only its demands tie to the entry, where the richer entry has no
demand as an input and in no demand exactly one. -/
structure Hidden (entry richer : EntryFact) (candidate : GrowthCandidate)
    (links : List CandidateEntryLink) : Prop where
  kept : Screened candidate
  linked : ∃ link, LinkedTo entry candidate links link
  allocation : candidate.kind = .directAllocation
  unnoted : ¬ Marked candidate ["request_derived_size"]
  single : ∃ demand ∈ candidate.demandInputs, (namedTokens entry demand).length = 1
  crowded : ∀ demand ∈ candidate.demandInputs,
    demand.name.1 ∉ inputNames richer ∧ (namedTokens richer demand).length ≠ 1

theorem request_noted_iff (candidate : GrowthCandidate) :
    noted candidate "request_derived_size" = true ↔ Marked candidate ["request_derived_size"] := by
  rw [noted_iff candidate _ (by decide) (by decide)]
  simp [Marked]

section

variable (entry richer : EntryFact) (candidate : GrowthCandidate) (links : List CandidateEntryLink)

theorem readdressed_linked (link : CandidateEntryLink)
    (linked : LinkedTo entry candidate links link) :
    LinkedTo richer candidate (links.map (readdressed entry richer))
      (readdressed entry richer link) ∧ (readdressed entry richer link).status = link.status := by
  obtain ⟨rfl, own, growth⟩ := linked
  unfold readdressed
  rw [if_pos own]
  exact ⟨⟨by rw [List.map_singleton, if_pos own], rfl, growth⟩, rfl⟩

theorem hidden_lost (hidden : Hidden entry richer candidate links) :
    Relevant (evaluateCandidateRelevance (some entry) candidate links).status ∧
      ¬ Relevant (evaluateCandidateRelevance (some richer) candidate
        (links.map (readdressed entry richer))).status := by
  rw [evaluated_relevant_iff, evaluated_relevant_iff]
  obtain ⟨link, linked⟩ := hidden.linked
  constructor
  · refine ⟨hidden.kept, link, linked, ?_⟩
    rw [familyRelevance, hidden.allocation]
    rw [allocation_relevant_iff, demand_matches_iff]
    obtain ⟨demand, member, one⟩ := hidden.single
    exact Or.inr ⟨demand, member, Or.inr one⟩
  · rintro ⟨-, other, -, relevant⟩
    rw [familyRelevance, hidden.allocation] at relevant
    rw [allocation_relevant_iff, demand_matches_iff, request_noted_iff] at relevant
    rcases relevant with marked | ⟨demand, member, whole | one⟩
    · exact hidden.unnoted marked
    · exact (hidden.crowded demand member).1 whole
    · exact (hidden.crowded demand member).2 one

end

/-- More attacker inputs keep a relevant candidate relevant exactly where they do not crowd the
demands of its allocation. -/
theorem relevance_monotone_iff (entry richer : EntryFact) (candidate : GrowthCandidate)
    (links : List CandidateEntryLink) (more : Richer entry richer) :
    (Relevant (evaluateCandidateRelevance (some entry) candidate links).status →
      (evaluateCandidateRelevance (some richer) candidate
          (links.map (readdressed entry richer))).status ≠ .rejected ∧
        (evaluateCandidateRelevance (some richer) candidate
          (links.map (readdressed entry richer))).status ≠ .unresolved) ↔
      ¬ Hidden entry richer candidate links := by
  rw [← relevant_iff]
  constructor
  · intro monotone hidden
    have lost := hidden_lost entry richer candidate links hidden
    exact lost.2 (monotone lost.1)
  · intro shown held
    rw [evaluated_relevant_iff] at held ⊢
    obtain ⟨kept, link, linked, relevant⟩ := held
    have moved := readdressed_linked entry richer candidate links link linked
    refine ⟨kept, _, moved.1, ?_⟩
    rw [moved.2]
    by_cases allocation : candidate.kind = .directAllocation
    · rw [familyRelevance, allocation] at relevant ⊢
      rw [allocation_relevant_iff, request_noted_iff, demand_matches_iff] at relevant ⊢
      by_cases marked : Marked candidate ["request_derived_size"]
      · exact Or.inl marked
      · right
        by_contra lost
        have crowded : ∀ demand ∈ candidate.demandInputs,
            demand.name.1 ∉ inputNames richer ∧ (namedTokens richer demand).length ≠ 1 := by
          intro demand member
          exact ⟨fun whole => lost ⟨demand, member, Or.inl whole⟩,
            fun one => lost ⟨demand, member, Or.inr one⟩⟩
        obtain ⟨demand, member, whole | one⟩ := relevant.resolve_left marked
        · exact (crowded demand member).1 (more.names whole)
        · exact shown ⟨kept, ⟨link, linked⟩, allocation, marked, ⟨demand, member, one⟩, crowded⟩
    · rw [family_relevant_same entry richer candidate _ allocation] at relevant
      exact relevant

def widthInput : Entries.AttackerInputFact :=
  ⟨⟨"width", by decide⟩, ⟨"token", Entries.token_valid⟩, .requestParameter⟩

def widerEntry : EntryFact :=
  { sampleEntry with
    entryId := stableIdentifier "entry" _
    attackerInputs := sampleEntry.attackerInputs ++ [widthInput]
    inputsRequired := by simp
    inputsOrdered := by decide
    idCanonical := rfl }

def areaCandidate : GrowthCandidate :=
  { sampleCandidate with
    growthId := stableIdentifier "growth" _
    kind := .directAllocation
    operation := ⟨"array_creation", by decide⟩
    resourceId := stableIdentifier "resource" _
    resourceDimension := .bytes
    demandInputs := [⟨⟨"token * width", by decide⟩, .size⟩]
    demandsRequired := by decide
    demandsBounded := by decide
    demandsOrdered := List.pairwise_singleton _ _
    resourceCanonical := rfl
    idCanonical := rfl }

def areaLink : CandidateEntryLink where
  linkId := stableIdentifier "candidate_link" _
  growthId := areaCandidate.growthId
  entryId := sampleEntry.entryId
  status := .complete
  evidenceIds := ⟨["fact:new"], by decide, by decide⟩
  reasonCodes := ⟨["ASSOCIATION_QUERY_EVIDENCE"], by decide, by decide⟩
  growthIdStarts := stable_identifier_starts "growth" _
  entryIdStarts := sampleEntry.entry_id_starts
  evidenceRequired := by decide
  reasonsRequired := by decide
  idCanonical := rfl

theorem wider_richer : Richer sampleEntry widerEntry :=
  ⟨rfl, rfl, rfl, rfl, rfl, rfl, rfl, rfl, fun _ => List.mem_append_left _⟩

theorem area_unmarked : ∀ marker ∈ "request_derived_size" :: benignMarkers,
    ∀ note ∈ areaCandidate.coverageNotes.values, ¬ marker.toList <:+: note.toList := by
  decide

theorem area_hidden : Hidden sampleEntry widerEntry areaCandidate [areaLink] where
  kept := by
    refine ⟨by decide, by decide, ?_⟩
    rintro ⟨marker, known, note, member, inside⟩
    exact area_unmarked marker (.tail _ known) note member inside
  linked := ⟨areaLink, rfl, rfl, rfl⟩
  allocation := rfl
  unnoted := by
    rintro ⟨marker, known, note, member, inside⟩
    rw [List.mem_singleton.mp known] at inside
    exact area_unmarked _ (.head _) note member inside
  single := ⟨_, List.mem_singleton_self _, by decide⟩
  crowded := by
    intro demand member
    rw [List.mem_singleton.mp member]
    exact ⟨by decide, by decide⟩

theorem relevance_monotone_iff_sample :
    (Relevant (evaluateCandidateRelevance (some sampleEntry) areaCandidate
        [areaLink]).status → (evaluateCandidateRelevance (some widerEntry) areaCandidate
          ([areaLink].map (readdressed sampleEntry widerEntry))).status ≠ .rejected ∧
        (evaluateCandidateRelevance (some widerEntry) areaCandidate
          ([areaLink].map (readdressed sampleEntry widerEntry))).status ≠ .unresolved) ↔
      ¬ Hidden sampleEntry widerEntry areaCandidate [areaLink] :=
  relevance_monotone_iff _ _ _ _ wider_richer

/-- An allocation of as many bytes as the product of two inputs is relevant while one of them
is known. -/
theorem area_lost : ¬ ∀ entry richer candidate links, Richer entry richer →
    Relevant (evaluateCandidateRelevance (some entry) candidate links).status →
      (evaluateCandidateRelevance (some richer) candidate
          (links.map (readdressed entry richer))).status ≠ .rejected ∧
        (evaluateCandidateRelevance (some richer) candidate
          (links.map (readdressed entry richer))).status ≠ .unresolved := by
  intro claimed
  have lost := hidden_lost _ _ _ _ area_hidden
  exact lost.2 ((relevant_iff _).mpr (claimed _ _ _ _ wider_richer lost.1))

end DosWeb.Growth
