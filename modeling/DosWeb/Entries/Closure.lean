import DosWeb.Entries.FrameworkCoverage

/-!
The entries and the coverage that one list of rows gives.
-/

namespace DosWeb.Entries

open Library.JsonValue Library.OrderedSet Identifiers
open Library.JsonRecord (isText is_text)

section

variable {F : Type}

variable (materialized : List (Members F))

theorem complete_fact_mem (fact : EntryFact) : fact ∈ completeFacts (materialized.map Json.obj) ↔
      ∃ row ∈ materialized, rowFact row = .ok (some fact) := by
  rw [completeFacts, List.mem_filterMap]
  constructor
  · intro held
    obtain ⟨_, member, read⟩ := held
    obtain ⟨row, inside, rfl⟩ := List.mem_map.mp member
    refine ⟨row, inside, ?_⟩
    simp only [completeFact] at read
    split at read
    · rename_i own known
      rw [known, read]
    · cases read
  · intro held
    obtain ⟨row, inside, read⟩ := held
    exact ⟨.obj row, List.mem_map.mpr ⟨row, inside, rfl⟩, by simp [completeFact, read]⟩

theorem gap_mem (framework : Framework) : (∃ row ∈ materialized.map Json.obj, GapOf framework row) ↔
      ∃ row ∈ materialized, rowFact row = .ok none ∧
        isText framework.text (item "framework" row) = true := by
  constructor
  · intro held
    obtain ⟨_, member, own, rfl, gap⟩ := held
    obtain ⟨row, inside, same⟩ := List.mem_map.mp member
    cases same
    exact ⟨own, inside, gap⟩
  · intro held
    obtain ⟨row, inside, gap⟩ := held
    exact ⟨.obj row, List.mem_map.mpr ⟨row, inside, rfl⟩, row, rfl, gap⟩

theorem is_text_unique (left right : Framework) (value : Json F)
    (one : isText left.text value = true) (other : isText right.text value = true) :
    left = right := by
  rw [is_text] at one other
  rw [one, Json.str.injEq] at other
  exact framework_text_injective _ _ other

section

variable (materialized : List (Members F)) (contributions : List Contribution)
  (accounts : List.Forall₂ Accounts materialized contributions) (framework : Framework)

include accounts

theorem supported_rows (pattern : String) : pattern ∈ supportedOf contributions framework ↔
    ∃ fact ∈ completeFacts (materialized.map Json.obj), fact.framework = framework ∧
      fact.registrationPatternId = pattern := by
  rw [mem_supported]
  constructor
  · intro held
    obtain ⟨own, member, rfl, complete, rfl⟩ := held
    obtain ⟨row, inside, related⟩ := related_left accounts.flip own member
    rcases related with ⟨fact, read, rfl⟩ | ⟨-, gap, -⟩
    · exact ⟨fact, (complete_fact_mem _ _).mpr ⟨row, inside, read⟩, rfl, rfl⟩
    · exact absurd complete gap
  · intro held
    obtain ⟨fact, member, rfl, rfl⟩ := held
    obtain ⟨row, inside, read⟩ := (complete_fact_mem _ _).mp member
    obtain ⟨own, added, related⟩ := related_left accounts row inside
    rcases related with ⟨fact', read', rfl⟩ | ⟨none_, -, -⟩
    · rw [read, Except.ok.injEq, Option.some.injEq] at read'
      subst read'
      exact ⟨_, added, rfl, rfl, rfl⟩
    · rw [read] at none_
      cases none_

theorem unsupported_rows : unsupportedOf contributions framework = [] ↔
    ∀ row ∈ materialized.map Json.obj, ¬ GapOf framework row := by
  rw [unsupported_nil]
  constructor
  · intro complete row member gap
    obtain ⟨members, inside, none_, named⟩ := (gap_mem materialized framework).mp ⟨row, member, gap⟩
    obtain ⟨own, added, related⟩ := related_left accounts members inside
    rcases related with ⟨fact, read, -⟩ | ⟨-, gap', named'⟩
    · rw [none_] at read
      cases read
    · exact gap' (complete own added (is_text_unique _ _ _ named' named))
  · intro free own member named
    obtain ⟨row, inside, related⟩ := related_left accounts.flip own member
    rcases related with ⟨fact, -, rfl⟩ | ⟨none_, -, named'⟩
    · rfl
    · exfalso
      obtain ⟨row', member', gap⟩ := (gap_mem materialized framework).mpr
        ⟨row, inside, none_, named ▸ named'⟩
      exact free row' member' gap

end

/-- What the coverage of a framework says about the rows. -/
structure Covers (rows : List (Json F)) (coverage : FrameworkCoverage) : Prop where
  supported : ∀ pattern, pattern ∈ coverage.supportedPatterns.values ↔
    ∃ fact ∈ completeFacts rows, fact.framework = coverage.framework ∧
      fact.registrationPatternId = pattern
  free : coverage.effectOnVerdict = .noEffect ↔
    (∃ fact ∈ completeFacts rows, fact.framework = coverage.framework) ∧
      ∀ row ∈ rows, ¬ GapOf coverage.framework row

theorem effect_free (status : CoverageStatus) : status.effect = .noEffect ↔ status = .complete := by
  unfold CoverageStatus.effect
  split <;> simp_all

theorem framework_covers (contributions : List Contribution)
    (accounts : List.Forall₂ Accounts materialized contributions) (framework : Framework)
    (coverage : FrameworkCoverage)
    (created : frameworkCoverage contributions framework = .ok coverage) :
    coverage.framework = framework ∧ Covers (materialized.map Json.obj) coverage := by
  obtain ⟨rfl, status, patterns⟩ := framework_create_ok _ _ _ _ _ created
  refine ⟨rfl, ?_, ?_⟩
  · intro pattern
    rw [patterns, mem_sortedSet]
    exact supported_rows materialized contributions accounts coverage.framework pattern
  · rw [coverage.effectMatches, effect_free, status, status_complete,
      unsupported_rows materialized contributions accounts, ne_eq, List.eq_nil_iff_forall_not_mem,
      not_forall]
    simp only [not_not, supported_rows materialized contributions accounts]
    constructor
    · intro held
      obtain ⟨⟨pattern, fact, member, named, -⟩, free⟩ := held
      exact ⟨⟨fact, member, named⟩, free⟩
    · intro held
      obtain ⟨⟨fact, member, named⟩, free⟩ := held
      exact ⟨⟨fact.registrationPatternId, fact, member, named, rfl⟩, free⟩

theorem normalized_reads (rows : List (Json F)) (entries : List EntryFact)
    (normalized : normalizedEntries rows = .ok entries) :
    ∃ materialized facts, materializeRows rows = .ok materialized ∧
      rows = materialized.map Json.obj ∧ rowFacts materialized = .ok facts ∧
        facts = completeFacts rows := by
  simp only [normalizedEntries, bind_ok] at normalized
  obtain ⟨materialized, rowsRead, facts, factsRead, -⟩ := normalized
  have rowsRead' := rowsRead
  simp only [materializeRows, bind_ok] at rowsRead'
  obtain ⟨-, -, from_⟩ := rowsRead'
  exact ⟨materialized, facts, rowsRead, materialize_from_rows 1 rows materialized from_, factsRead,
    materialize_from_facts 1 rows materialized facts from_ factsRead⟩

theorem normalized_covers (rows : List (Json F)) (entries : List EntryFact)
    (coverages : List FrameworkCoverage) (normalized : normalizedEntries rows = .ok entries)
    (covered : normalizedCoverage rows = .ok coverages) :
    List.Forall₂ (fun framework coverage => coverage.framework = framework ∧ Covers rows coverage)
      coverageFrameworks coverages := by
  obtain ⟨materialized, facts, rowsRead, rfl, factsRead, -⟩ := normalized_reads rows entries normalized
  simp only [normalizedCoverage, bind_ok, rowsRead, mapM_ok, Except.ok.injEq, exists_eq_left'] at covered
  obtain ⟨contributions, added, all⟩ := covered
  have accounts := contributions_account 1 materialized facts contributions factsRead added
  exact all.imp fun framework coverage created =>
    framework_covers materialized contributions accounts framework coverage created

end

variable {F : Type}

/-- The entry of a row: the only one with the key of its fact, and with the inputs of the fact. -/
def EntryOf (entries : List EntryFact) (fact entry : EntryFact) : Prop :=
  (entries.filter fun other => other.key = fact.key) = [entry] ∧
    ∀ input ∈ fact.attackerInputs, input ∈ entry.attackerInputs

theorem filter_key_unique (entries : List EntryFact) (distinct : (entries.map EntryFact.key).Nodup)
    (entry : EntryFact) (member : entry ∈ entries) :
    (entries.filter fun other => other.key = entry.key) = [entry] := by
  induction entries with
  | nil => cases member
  | cons first rest ih =>
    rw [List.map_cons, List.nodup_cons] at distinct
    rcases List.mem_cons.mp member with rfl | later
    · have others : (rest.filter fun other => other.key = entry.key) = [] := by
        apply List.filter_eq_nil_iff.mpr
        intro other inside same
        exact distinct.1 (List.mem_map.mpr ⟨other, inside, of_decide_eq_true same⟩)
      simp [others]
    · have apart : first.key ≠ entry.key := fun same =>
        distinct.1 (List.mem_map.mpr ⟨entry, later, same.symm⟩)
      rw [List.filter_cons_of_neg (by simpa using apart)]
      exact ih distinct.2 later

theorem merged_keys (groups : List (EntryFact × List EntryFact)) (merged : List EntryFact)
    (all : List.Forall₂ (fun group entry => mergeGroup group = .ok entry) groups merged) :
    merged.map EntryFact.key = groups.map fun group => group.1.key := by
  induction all with
  | nil => rfl
  | cons own _ ih =>
    rw [List.map_cons, List.map_cons, (merge_group_kept _ _ own).1, ih]

theorem normalized_keys (rows : List (Json F)) (entries : List EntryFact)
    (normalized : normalizedEntries rows = .ok entries) :
    (∀ fact ∈ completeFacts rows, ∃ entry, EntryOf entries fact entry) ∧
      ∀ entry ∈ entries, ∃ fact ∈ completeFacts rows, fact.key = entry.key := by
  obtain ⟨materialized, facts, rowsRead, -, factsRead, same⟩ := normalized_reads rows entries normalized
  simp only [normalizedEntries, bind_ok, rowsRead, factsRead, mapM_ok, Except.ok.injEq,
    exists_eq_left'] at normalized
  obtain ⟨merged, all, sorted⟩ := normalized
  cases sorted
  have readable := row_facts_readable materialized facts factsRead
  have grouped := group_facts_grouped facts
  have perm := List.perm_insertionSort (fun left right : EntryFact =>
    canonicalJson (.obj left.semanticIdentity) ≤ canonicalJson (.obj right.semanticIdentity)) merged
  have distinct := grouped.distinct
  rw [← merged_keys _ _ all, ← (perm.map EntryFact.key).nodup_iff] at distinct
  rw [← same]
  constructor
  · intro fact member
    obtain ⟨group, inside, keySame⟩ := grouped.covers fact member
    obtain ⟨entry, kept, own⟩ := related_left all group inside
    have named := (merge_group_kept group entry own).1
    refine ⟨entry, ?_, ?_⟩
    · rw [← keySame, ← named]
      exact filter_key_unique _ distinct entry (perm.mem_iff.mpr kept)
    · intro input held
      rw [(merge_group_entry _ facts grouped readable group inside entry own).2, mem_sortedSet,
        sharedInputs, List.mem_flatMap]
      exact ⟨fact, List.mem_filter.mpr ⟨member, by simpa using keySame.symm⟩, held⟩
  · intro entry member
    obtain ⟨group, inside, own⟩ := related_left all.flip entry (perm.mem_iff.mp member)
    have held : group.1 ∈ group.1 :: group.2 := .head _
    rw [grouped.whole group inside] at held
    exact ⟨group.1, (List.mem_filter.mp held).1, (merge_group_kept group entry own).1.symm⟩

theorem normalized_same (rows others : List (Json F)) (entries entries' : List EntryFact)
    (normalized : normalizedEntries rows = .ok entries)
    (normalized' : normalizedEntries others = .ok entries')
    (same : completeFacts others = completeFacts rows) : entries' = entries := by
  obtain ⟨materialized, facts, rowsRead, -, factsRead, own⟩ := normalized_reads rows entries normalized
  obtain ⟨materialized', facts', rowsRead', -, factsRead', own'⟩ :=
    normalized_reads others entries' normalized'
  have equal : facts' = facts := by rw [own', own, same]
  subst equal
  simp only [normalizedEntries, bind_ok, rowsRead, factsRead, Except.ok.injEq,
    exists_eq_left'] at normalized
  simp only [normalizedEntries, bind_ok, rowsRead', factsRead', Except.ok.injEq,
    exists_eq_left'] at normalized'
  obtain ⟨merged, all, sorted⟩ := normalized
  obtain ⟨merged', all', sorted'⟩ := normalized'
  rw [all, Except.ok.injEq] at all'
  subst all'
  cases sorted
  cases sorted'
  rfl

end DosWeb.Entries
