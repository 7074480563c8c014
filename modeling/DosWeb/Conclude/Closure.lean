import DosWeb.Conclude.Verdicts
import DosWeb.Entries.Closure

/-!
The entries, the gaps and the coverage of one list of rows agree, and the coverage of a candidate
follows from them.
-/

namespace DosWeb.Conclude

open Library.JsonValue Entries
open Library.JsonRecord (isText)

/-- An entry's own registration pattern, where it is supported, gives complete coverage. -/
theorem from_framework_supported (coverage : FrameworkCoverage) (pattern : String)
    (entryId growthId pathId : Option String)
    (supported : pattern ∈ coverage.supportedPatterns.values)
    (filled : ∀ reference ∈ [entryId, growthId, pathId], reference ≠ some "") :
    ∃ candidate, CandidateCoverage.fromFramework coverage (some pattern) entryId growthId pathId =
      .ok candidate ∧ candidate.status = .complete := by
  have named : pattern ≠ "" := fun empty => coverage.supportedPatterns.filled (empty ▸ supported)
  have modeled := coverage.supportedModeled pattern supported
  have references : ∀ reference ∈ [some pattern, entryId, growthId, pathId], reference ≠ some "" := by
    intro reference member
    rcases List.mem_cons.mp member with rfl | later
    · simpa using named
    · exact filled reference later
  unfold CandidateCoverage.fromFramework
  simp only [dif_pos supported]
  unfold CandidateCoverage.create
  rw [dif_pos (by simp), dif_pos (by simpa using modeled), dif_pos (by simp), dif_pos (by simp),
    dif_pos references, dif_pos (by simpa using modeled), dif_pos (by simp), dif_pos (by simp),
    dif_pos (by simp)]
  exact ⟨_, rfl, rfl⟩

section

variable {F : Type}

/-- Every row is a gap row or has its one entry, and the coverage says what the entries say. -/
structure Closed (rows : List (Json F)) (entries : List EntryFact)
    (coverages : List FrameworkCoverage) : Prop where
  classified : ∀ row ∈ rows, (∃ framework, GapOf framework row) ∨
    ∃ fact entry, completeFact row = some fact ∧ EntryOf entries fact entry
  frameworks : coverages.map FrameworkCoverage.framework = coverageFrameworks
  supported : ∀ entry ∈ entries, ∃ coverage ∈ coverages, coverage.framework = entry.framework ∧
    entry.registrationPatternId ∈ coverage.supportedPatterns.values
  witnessed : ∀ coverage ∈ coverages, ∀ pattern ∈ coverage.supportedPatterns.values,
    ∃ entry ∈ entries, entry.framework = coverage.framework ∧ entry.registrationPatternId = pattern
  free : ∀ coverage ∈ coverages, coverage.effectOnVerdict = .noEffect ↔
    (∃ row ∈ rows, ∃ fact, completeFact row = some fact ∧ fact.framework = coverage.framework) ∧
      ∀ row ∈ rows, ¬ GapOf coverage.framework row
  candidate : ∀ entry ∈ entries, ∀ coverage ∈ coverages, coverage.framework = entry.framework →
    ∀ entryId growthId pathId, (∀ reference ∈ [entryId, growthId, pathId], reference ≠ some "") →
      ∃ candidate, CandidateCoverage.fromFramework coverage (some entry.registrationPatternId)
        entryId growthId pathId = .ok candidate ∧ candidate.status = .complete

/-- A further gap row changes no entry and brings no framework to a determinate verdict. -/
structure GapStable (rows : List (Json F)) (entries : List EntryFact)
    (coverages : List FrameworkCoverage) : Prop where
  unchanged : ∀ before after gap framework entries', rows = before ++ after → GapOf framework gap →
    normalizedEntries (before ++ gap :: after) = .ok entries' → entries' = entries
  effects : ∀ before after gap framework entries' coverages', rows = before ++ after →
    GapOf framework gap → normalizedEntries (before ++ gap :: after) = .ok entries' →
      normalizedCoverage (before ++ gap :: after) = .ok coverages' →
        ∀ coverage ∈ coverages, ∀ coverage' ∈ coverages', coverage'.framework = coverage.framework →
          coverage.effectOnVerdict = .forcesUnknown → coverage'.effectOnVerdict = .forcesUnknown

theorem framework_listed (framework : Framework) : framework ∈ coverageFrameworks := by
  cases framework <;> decide

theorem effect_forces (effect : VerdictEffect) : effect = .forcesUnknown ↔ effect ≠ .noEffect := by
  cases effect <;> simp

theorem gap_without_fact (framework : Framework) (gap : Json F) (documented : GapOf framework gap) :
    completeFact gap = none := by
  obtain ⟨members, rfl, read, -⟩ := documented
  simp [completeFact, read]

variable (rows : List (Json F)) (entries : List EntryFact) (coverages : List FrameworkCoverage)
  (normalized : normalizedEntries rows = .ok entries)
  (covered : normalizedCoverage rows = .ok coverages)

include normalized covered

theorem coverage_covers (coverage : FrameworkCoverage) (member : coverage ∈ coverages) :
    Covers rows coverage := by
  obtain ⟨framework, -, -, covers⟩ := related_left
    (normalized_covers rows entries coverages normalized covered).flip coverage member
  exact covers

theorem coverage_present (framework : Framework) :
    ∃ coverage ∈ coverages, coverage.framework = framework := by
  obtain ⟨coverage, member, own, -⟩ := related_left
    (normalized_covers rows entries coverages normalized covered) framework
    (framework_listed framework)
  exact ⟨coverage, member, own⟩

theorem entry_supported (entry : EntryFact) (member : entry ∈ entries) (coverage : FrameworkCoverage)
    (listed : coverage ∈ coverages) (own : coverage.framework = entry.framework) :
    entry.registrationPatternId ∈ coverage.supportedPatterns.values := by
  obtain ⟨fact, held, same⟩ := (normalized_keys rows entries normalized).2 entry member
  have framework := congrArg EntryKey.framework same
  have pattern := congrArg EntryKey.registrationPatternId same
  apply ((coverage_covers rows entries coverages normalized covered coverage listed).supported _).mpr
  exact ⟨fact, held, framework.trans own.symm, pattern⟩

theorem row_classified (row : Json F) (member : row ∈ rows) : (∃ framework, GapOf framework row) ∨
    ∃ fact entry, completeFact row = some fact ∧ EntryOf entries fact entry := by
  obtain ⟨materialized, facts, rowsRead, rfl, factsRead, -⟩ := normalized_reads rows entries normalized
  simp only [normalizedCoverage, bind_ok, rowsRead, Except.ok.injEq, exists_eq_left'] at covered
  obtain ⟨contributions, added, -⟩ := covered
  obtain ⟨members, inside, rfl⟩ := List.mem_map.mp member
  obtain ⟨own, -, account⟩ := related_left
    (contributions_account 1 materialized facts contributions factsRead added) members inside
  rcases account with ⟨fact, read, -⟩ | ⟨read, -, named⟩
  · right
    have complete : completeFact (Json.obj members) = some fact := by simp [completeFact, read]
    obtain ⟨entry, only⟩ := (normalized_keys _ entries normalized).1 fact
      ((complete_fact_mem materialized fact).mpr ⟨members, inside, read⟩)
    exact ⟨fact, entry, complete, only⟩
  · exact Or.inl ⟨own.framework, members, rfl, read, named⟩

theorem rows_closed : Closed rows entries coverages := by
  have covers := coverage_covers rows entries coverages normalized covered
  constructor
  · exact row_classified rows entries coverages normalized covered
  · have all := normalized_covers rows entries coverages normalized covered
    clear covers covered
    generalize coverageFrameworks = frameworks at all ⊢
    induction all with
    | nil => rfl
    | cons own _ ih => rw [List.map_cons, own.1, ih]
  · intro entry member
    obtain ⟨coverage, listed, own⟩ :=
      coverage_present rows entries coverages normalized covered entry.framework
    exact ⟨coverage, listed, own,
      entry_supported rows entries coverages normalized covered entry member coverage listed own⟩
  · intro coverage listed pattern member
    obtain ⟨fact, held, framework, rfl⟩ := ((covers coverage listed).supported pattern).mp member
    obtain ⟨entry, only, -⟩ := (normalized_keys rows entries normalized).1 fact held
    have kept : entry ∈ entries.filter fun other => other.key = fact.key := by simp [only]
    obtain ⟨inside, same⟩ := List.mem_filter.mp kept
    have same' := of_decide_eq_true same
    exact ⟨entry, inside, (congrArg EntryKey.framework same').trans framework,
      congrArg EntryKey.registrationPatternId same'⟩
  · intro coverage listed
    rw [(covers coverage listed).free]
    apply and_congr_left'
    constructor
    · intro held
      obtain ⟨fact, member, own⟩ := held
      obtain ⟨row, inside, read⟩ := List.mem_filterMap.mp member
      exact ⟨row, inside, fact, read, own⟩
    · intro held
      obtain ⟨row, inside, fact, read, own⟩ := held
      exact ⟨fact, List.mem_filterMap.mpr ⟨row, inside, read⟩, own⟩
  · intro entry member coverage listed own entryId growthId pathId filled
    exact from_framework_supported coverage _ entryId growthId pathId
      (entry_supported rows entries coverages normalized covered entry member coverage listed own)
      filled

theorem rows_gap_stable : GapStable rows entries coverages := by
  constructor
  · rintro before after gap framework entries' rfl documented normalized'
    apply normalized_same (before ++ after) _ entries entries' normalized normalized'
    simp [completeFacts, gap_without_fact framework gap documented]
  · rintro before after gap framework entries' coverages' rfl documented normalized' covered' coverage
      listed coverage' listed' own forces
    rw [effect_forces] at forces ⊢
    intro free
    apply forces
    obtain ⟨⟨fact, member, held⟩, bare⟩ := (coverage_covers _ entries' coverages' normalized' covered'
      coverage' listed').free.mp free
    apply (coverage_covers _ entries coverages normalized covered coverage listed).free.mpr
    rw [own] at held bare
    have same : completeFacts (before ++ gap :: after) = completeFacts (before ++ after) := by
      simp [completeFacts, gap_without_fact framework gap documented]
    constructor
    · exact ⟨fact, same ▸ member, held⟩
    · intro row inside
      apply bare row
      rcases List.mem_append.mp inside with early | late
      · exact List.mem_append_left _ early
      · exact List.mem_append_right _ (List.mem_cons_of_mem gap late)

/-- The coverage of rows that are accepted is closed under their normalization. -/
theorem coverage_closed : Closed rows entries coverages ∧ GapStable rows entries coverages := by
  constructor
  · exact rows_closed rows entries coverages normalized covered
  · exact rows_gap_stable rows entries coverages normalized covered

end

def springContribution : Contribution := ⟨.springMvc, .complete, samplePattern⟩

/-- A handler whose registration is not resolved. -/
def gapRow : Members Empty :=
  (sampleRow ⟨"token", token_valid⟩).map fun (name, value) =>
    if name = "registration_kind" then (name, .str "dynamic_unresolved")
    else if name = "coverage_status" then (name, .str "partial")
    else (name, value)

def gapContribution : Contribution := ⟨.springMvc, .partialCoverage, "spring_annotation_mapping"⟩

theorem token_note : (DosWeb.Library.Text.utf8 "spring_annotation_mapping".toList).length ≤ 65536 := by
  decide +kernel

theorem gap_contribution : contribution 2 gapRow = .ok gapContribution := by
  have framework : (frameworks.find? fun framework => isText framework.text
      (item "framework" gapRow)) = some .springMvc := rfl
  have status : (coverageStatuses.find? fun status => isText status.text
      (item "coverage_status" gapRow)) = some .partialCoverage := rfl
  unfold contribution
  simp only [framework, status, bind_ok, require_ok]
  exact ⟨(), rfl, (), decide_eq_true token_note, rfl⟩

theorem spring_covered : (coverageFrameworks.all fun framework =>
    (frameworkCoverage [springContribution, gapContribution] framework).toOption.isSome) = true := by
  decide +kernel

theorem token_contribution (fact : EntryFact)
    (read : EntryFact.fromRaw (sampleRow ⟨"token", token_valid⟩) = .ok fact)
    (key : fact.key = sampleKey) :
    contribution 1 (sampleRow ⟨"token", token_valid⟩) = .ok springContribution := by
  have pattern : fact.registrationPatternId = samplePattern :=
    congrArg EntryKey.registrationPatternId key
  have framework : (frameworks.find? fun framework => isText framework.text
      (item "framework" (sampleRow ⟨"token", token_valid⟩))) = some .springMvc := rfl
  have status : (coverageStatuses.find? fun status => isText status.text
      (item "coverage_status" (sampleRow ⟨"token", token_valid⟩))) = some .complete := rfl
  unfold contribution
  simp only [framework, status, bind_ok, require_ok, if_true]
  exact ⟨(), rfl, (), decide_eq_true token_note, fact, read, by rw [pattern]; rfl⟩

def tokenRows : List PlainJson := [.obj (sampleRow ⟨"token", token_valid⟩), .obj gapRow]

theorem token_rows_accepted : ∃ entries coverages, normalizedEntries tokenRows = .ok entries ∧
    normalizedCoverage tokenRows = .ok coverages := by
  obtain ⟨fact, read, key, -⟩ := sample_from_raw ⟨"token", token_valid⟩
  have materialized : materializeRows tokenRows =
      .ok [sampleRow ⟨"token", token_valid⟩, gapRow] := rfl
  have tokenFact : rowFact (sampleRow ⟨"token", token_valid⟩) = .ok (some fact) :=
    bind_ok.mpr ⟨(), rfl, bind_ok.mpr ⟨fact, read, rfl⟩⟩
  have factsRead : rowFacts [sampleRow ⟨"token", token_valid⟩, gapRow] = .ok [fact] :=
    bind_ok.mpr ⟨_, tokenFact, bind_ok.mpr ⟨[], rfl, rfl⟩⟩
  obtain ⟨entries, normalized⟩ := normalized_entries_total _ _ _ materialized factsRead
  obtain ⟨coverages, all⟩ := mapM_total (frameworkCoverage [springContribution, gapContribution])
    coverageFrameworks (by
      intro framework member
      have covered := List.all_eq_true.mp spring_covered framework member
      cases result : frameworkCoverage [springContribution, gapContribution] framework with
      | ok coverage => exact ⟨coverage, rfl⟩
      | error raised =>
        rw [result] at covered
        cases covered)
  refine ⟨entries, coverages, normalized, ?_⟩
  unfold normalizedCoverage
  simp only [bind_ok]
  refine ⟨_, materialized, [springContribution, gapContribution], ?_, all⟩
  exact bind_ok.mpr ⟨_, token_contribution fact read key, bind_ok.mpr ⟨_,
    bind_ok.mpr ⟨_, gap_contribution, rfl⟩, rfl⟩⟩

/-- One entry and one handler whose registration is a gap. -/
theorem token_rows_closed : ∃ entries coverages, normalizedEntries tokenRows = .ok entries ∧
    Closed tokenRows entries coverages ∧ GapStable tokenRows entries coverages := by
  obtain ⟨entries, coverages, normalized, covered⟩ := token_rows_accepted
  exact ⟨entries, coverages, normalized,
    coverage_closed tokenRows entries coverages normalized covered⟩

end DosWeb.Conclude
