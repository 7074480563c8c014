import DosWeb.Entries.Normalize

/-!
The coverage of each framework from the raw query rows: what its complete rows register and what
its gap rows note.
-/

namespace DosWeb.Entries

open Library Library.JsonValue Library.OrderedSet Entries.Coverage
open Library.JsonRecord (isText is_text)

def coverageStatuses : List CoverageStatus := [.complete, .partialCoverage, .unsupported]

/-- The frameworks in the order of their coverage records. -/
def coverageFrameworks : List Framework := [.grpc, .jaxRs, .mqtt, .netty, .servlet, .springMvc]

def coverageRowInvalid (reason field : String) (number : Nat) : Raised :=
  .analyzer ⟨"COVERAGE_ENTRY_INVALID", "Entry coverage rows cannot be normalized safely.",
    rowDetails reason (some field) (some number)⟩

/-- What a row adds to the coverage of its framework: a registration pattern, or a note. -/
structure Contribution where
  framework : Framework
  status : CoverageStatus
  pattern : String

def numbered {α : Type} (number : Nat) : Checked α → Checked α
  | .error (.analyzer error) =>
    .error (.analyzer { error with details := error.details ++ [("row", .int number)] })
  | result => result

section

variable {F : Type}

def noteOf (row : Members F) : String := (textOf (item "coverage_note" row)).getD ""

def contribution (number : Nat) (row : Members F) : Checked Contribution :=
  match frameworks.find? fun framework => isText framework.text (item "framework" row) with
  | none => .error (coverageRowInvalid "FRAMEWORK_INVALID" "framework" number)
  | some framework =>
    match coverageStatuses.find? fun status =>
        isText status.text (item "coverage_status" row) with
    | none => .error (coverageRowInvalid "STATUS_INVALID" "coverage_status" number)
    | some status => do
        require (filledText (item "coverage_note" row))
          (coverageRowInvalid "NOTE_REQUIRED" "coverage_note" number)
        require ((Text.utf8 (noteOf row).toList).length ≤ 65536)
          (coverageRowInvalid "NOTE_LIMIT" "coverage_note" number)
        if status = .complete then do
          let fact ← EntryFact.fromRaw row
          return ⟨framework, status, fact.registrationPatternId⟩
        else do
          numbered number (validateGapRow row)
          return ⟨framework, status, noteOf row⟩

def contributionsFrom (number : Nat) : List (Members F) → Checked (List Contribution)
  | [] => .ok []
  | row :: rows => do
      let own ← contribution number row
      let others ← contributionsFrom (number + 1) rows
      return own :: others

end

/-- Distinct patterns in order; each has to be a text of bounded size. -/
def coveragePatterns (values : List String) (field : String) :
    Checked { texts : TextSet // ∀ pattern ∈ texts.values, validText pattern = true } :=
  if valid : ∀ value ∈ values, validText value = true then
    .ok ⟨⟨sortedSet values, sortedSet_increasing values, by
      intro member
      have filled := valid "" ((mem_sortedSet _ _).mp member)
      simp [validText] at filled⟩, fun pattern member =>
        valid pattern ((mem_sortedSet _ _).mp member)⟩
  else
    let first := (values.find? fun value => !validText value).getD ""
    .error (coverageInvalid
      (if first = "" ∨ first.toList.contains (Char.ofNat 0) then "PATTERN_INVALID"
        else "PATTERN_LIMIT") (some field))

def FrameworkCoverage.create (framework : Framework) (status : CoverageStatus)
    (supportedPatterns unsupportedPatterns : List String) : Checked FrameworkCoverage := do
  let supported ← coveragePatterns supportedPatterns "supported_patterns"
  let unsupported ← coveragePatterns unsupportedPatterns "unsupported_patterns"
  if disjoint : ∀ pattern ∈ supported.1.values, pattern ∉ unsupported.1.values then
    if completeWithoutGaps : status = .complete → unsupported.1.values = [] then
      if incompleteWithGap : status ≠ .complete → unsupported.1.values ≠ [] then
        if supportedModeled : ∀ pattern ∈ supported.1.values,
            registrationCoveragePatternBelongsToFramework framework.text pattern = true then
          .ok {
            framework, status
            supportedPatterns := supported.1
            unsupportedPatterns := unsupported.1
            effectOnVerdict := status.effect
            patternsValid := fun pattern member =>
              (List.mem_append.mp member).elim (supported.2 pattern) (unsupported.2 pattern)
            effectMatches := status.effect_own
            disjoint, completeWithoutGaps, incompleteWithGap, supportedModeled }
        else .error (coverageInvalid "SUPPORTED_PATTERN_ID_INVALID" (some "supported_patterns"))
      else .error (coverageInvalid "GAP_PATTERN_REQUIRED" (some "unsupported_patterns"))
    else .error (coverageInvalid "COMPLETE_HAS_GAPS" (some "unsupported_patterns"))
  else .error (coverageInvalid "PATTERN_OVERLAP" (some "unsupported_patterns"))

section

variable (contributions : List Contribution) (framework : Framework)

def ownContributions : List Contribution :=
  contributions.filter fun own => own.framework = framework

def supportedOf : List String :=
  sortedSet (((ownContributions contributions framework).filter fun own =>
    own.status = .complete).map Contribution.pattern)

def unsupportedOf : List String :=
  sortedSet (((ownContributions contributions framework).filter fun own =>
    own.status ≠ .complete).map Contribution.pattern)

def statusOf : CoverageStatus :=
  if supportedOf contributions framework = [] ∧ unsupportedOf contributions framework = [] then
    .unsupported
  else if unsupportedOf contributions framework = [] then .complete
  else if supportedOf contributions framework ≠ [] ∨
      (ownContributions contributions framework).any (fun own => own.status = .partialCoverage) then
    .partialCoverage
  else .unsupported

def gapsOf : List String :=
  if supportedOf contributions framework = [] ∧ unsupportedOf contributions framework = [] then
    ["no_entry_query_evidence"]
  else unsupportedOf contributions framework

def frameworkCoverage : Checked FrameworkCoverage :=
  FrameworkCoverage.create framework (statusOf contributions framework)
    (supportedOf contributions framework) (gapsOf contributions framework)

end

def normalizedCoverage {F : Type} (rows : List (Json F)) : Checked (List FrameworkCoverage) := do
  let materialized ← materializeRows rows
  let contributions ← contributionsFrom 1 materialized
  coverageFrameworks.mapM (frameworkCoverage contributions)

section

theorem coverage_patterns_ok (values : List String) (field : String)
    (texts : { texts : TextSet // ∀ pattern ∈ texts.values, validText pattern = true })
    (collected : coveragePatterns values field = .ok texts) : texts.1.values = sortedSet values := by
  unfold coveragePatterns at collected
  split at collected
  · cases collected
    rfl
  · cases collected

theorem framework_create_ok (framework : Framework) (status : CoverageStatus)
    (supported unsupported : List String) (coverage : FrameworkCoverage)
    (created : FrameworkCoverage.create framework status supported unsupported = .ok coverage) :
    coverage.framework = framework ∧ coverage.status = status ∧
      coverage.supportedPatterns.values = sortedSet supported := by
  simp only [FrameworkCoverage.create, bind_ok] at created
  obtain ⟨patterns, one, gaps, -, created⟩ := created
  split_ifs at created
  cases created
  exact ⟨rfl, rfl, coverage_patterns_ok supported _ patterns one⟩

variable (contributions : List Contribution) (framework : Framework)

theorem mem_supported (pattern : String) : pattern ∈ supportedOf contributions framework ↔
    ∃ own ∈ contributions, own.framework = framework ∧ own.status = .complete ∧
      own.pattern = pattern := by
  simp [supportedOf, ownContributions, and_assoc, and_left_comm]

theorem unsupported_nil : unsupportedOf contributions framework = [] ↔
    ∀ own ∈ contributions, own.framework = framework → own.status = .complete := by
  simp only [unsupportedOf, ownContributions, sortedSet_eq_nil, List.map_eq_nil_iff,
    List.filter_eq_nil_iff, List.mem_filter, decide_eq_true_eq, not_not, and_imp, ne_eq]

theorem status_complete : statusOf contributions framework = .complete ↔
    supportedOf contributions framework ≠ [] ∧ unsupportedOf contributions framework = [] := by
  unfold statusOf
  split_ifs with bare whole some_
  · simp [bare]
  · rw [and_comm, not_and] at bare
    simp [whole, bare whole]
  · simp [whole]
  · simp [whole]

end

variable {F : Type}

/-- What a row that both passes accept adds to the coverage. -/
def Accounts (row : Members F) (own : Contribution) : Prop :=
  (∃ fact, rowFact row = .ok (some fact) ∧
      own = ⟨fact.framework, .complete, fact.registrationPatternId⟩) ∨
    rowFact row = .ok none ∧ own.status ≠ .complete ∧
      isText own.framework.text (item "framework" row) = true

def GapOf (framework : Framework) (row : Json F) : Prop :=
  ∃ members, row = .obj members ∧ rowFact members = .ok none ∧
    isText framework.text (item "framework" members) = true

theorem found_framework (framework found : Framework) (value : Json F)
    (named : value = .str framework.text)
    (first : frameworks.find? (fun other => isText other.text value) = some found) :
    found = framework := by
  have held := List.find?_some first
  rw [is_text, named, Json.str.injEq] at held
  exact (framework_text_injective _ _ held).symm

theorem status_text_injective (left right : CoverageStatus) (same : left.text = right.text) :
    left = right := by
  revert same
  cases left <;> cases right <;> decide

theorem contribution_accounts (number : Nat) (row : Members F) (read : Option EntryFact)
    (own : Contribution) (fact : rowFact row = .ok read) (added : contribution number row = .ok own) :
    Accounts row own := by
  unfold contribution at added
  split at added
  · cases added
  rename_i framework first
  split at added
  · cases added
  rename_i status second
  have named := List.find?_some first
  have shown := List.find?_some second
  simp only [bind_ok] at added
  obtain ⟨-, -, -, -, added⟩ := added
  simp only [rowFact, bind_ok] at fact
  obtain ⟨nothing, typed, branch⟩ := fact
  split at added
  · rename_i complete
    simp only [bind_ok] at added
    obtain ⟨entry, raw, same⟩ := added
    cases same
    obtain ⟨-, text, held⟩ := from_raw_ok row entry raw
    have equal := found_framework entry.framework framework _ text first
    split at branch
    · rename_i gap
      exfalso
      simp only [bind_ok, validateGapRow, require_ok] at branch
      obtain ⟨-, ⟨-, status, -⟩, -⟩ := branch
      rw [is_text] at held
      rw [held] at status
      simp [oneOf, textOf] at status
    · rename_i whole
      left
      refine ⟨entry, ?_, ?_⟩
      · simp only [rowFact, bind_ok]
        refine ⟨nothing, typed, ?_⟩
        rw [if_neg whole]
        simp only [bind_ok]
        exact ⟨entry, raw, rfl⟩
      · rw [equal, complete]
  · rename_i gap
    simp only [bind_ok] at added
    obtain ⟨-, -, same⟩ := added
    cases same
    right
    have unlike : isText "complete" (item "coverage_status" row) = false := by
      rw [Bool.eq_false_iff]
      intro whole
      rw [is_text] at whole shown
      rw [whole, Json.str.injEq] at shown
      exact gap (status_text_injective _ _ shown.symm)
    rw [unlike] at branch
    simp only [Bool.not_false, Bool.or_true, if_true, bind_ok] at branch
    obtain ⟨_, valid, same⟩ := branch
    refine ⟨?_, gap, named⟩
    simp only [rowFact, bind_ok]
    refine ⟨nothing, typed, ?_⟩
    rw [unlike]
    simp only [Bool.not_false, Bool.or_true, if_true, bind_ok]
    exact ⟨_, valid, rfl⟩

theorem contributions_account (number : Nat) (rows : List (Members F))
    (facts : List EntryFact) (contributions : List Contribution) (read : rowFacts rows = .ok facts)
    (added : contributionsFrom number rows = .ok contributions) :
    List.Forall₂ Accounts rows contributions := by
  induction rows generalizing number facts contributions with
  | nil =>
    cases added
    exact .nil
  | cons row rows ih =>
    simp only [rowFacts, bind_ok] at read
    obtain ⟨fact, own, others, rest, -⟩ := read
    simp only [contributionsFrom, bind_ok] at added
    obtain ⟨first, ownAdded, later, restAdded, same⟩ := added
    cases same
    exact .cons (contribution_accounts number row fact first own ownAdded)
      (ih (number + 1) others later rest restAdded)

theorem materialize_from_rows (number : Nat) (rows : List (Json F))
    (materialized : List (Members F))
    (read : materializeFrom number rows = .ok materialized) : rows = materialized.map .obj := by
  induction rows generalizing number materialized with
  | nil =>
    cases read
    rfl
  | cons row rows ih =>
    simp only [materializeFrom, bind_ok] at read
    obtain ⟨members, own, others, rest, same⟩ := read
    cases same
    rw [List.map_cons, ← ih (number + 1) others rest]
    cases row with
    | obj inner =>
      simp only [materializeRow, bind_ok] at own
      obtain ⟨-, -, same⟩ := own
      cases same
      rfl
    | _ => cases own

end DosWeb.Entries
