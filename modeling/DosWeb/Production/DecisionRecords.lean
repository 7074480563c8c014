import DosWeb.Conclude.FailClosed
import DosWeb.Decoding
import DosWeb.Production.Conclude
import DosWeb.Production.Lifecycle

/-!
The records of lifecycle decisions, and the decisions that are read back from them.
-/

namespace DosWeb.Production

open Library.JsonValue Library.JsonRecord Library.OrderedSet
open Growth (GrowthCandidate optionalText)
open Identifiers (stableIdentifier)
open Lifecycle

variable {F : Type}

/-- A check as it is read: nothing looks at the types of its fields. -/
structure StoredDecisionCheck (F : Type) where
  name : Json F
  passed : Json F
  reasonCode : Json F
  evidenceIds : List (Json F)

/-- A decision as it is read; only that of a release has a classification. -/
structure StoredDecision (F : Type) where
  status : Json F
  classification : Option (Json F)
  reasonCodes : List (Json F)
  checks : List (StoredDecisionCheck F)
  evidenceIds : List (Json F)
  unresolvedFacts : List (Json F)
  candidateIds : List (Json F)

def guardRecord (decision : GuardDecision) : Members Empty :=
  decisionMembers decision.status.text decision.reasonCodes (recordedChecks decision.checks)
    decision.facts

def boundRecord (decision : BoundDecision) : Members Empty :=
  decisionMembers decision.status.text decision.reasonCodes (recordedChecks decision.checks)
    decision.facts

def releaseRecord (decision : ReleaseDecision) : Members Empty :=
  decisionMembers decision.status.text decision.reasonCodes (recordedChecks decision.checks)
    decision.facts ++ [("classification", .str decision.classification.text)]

def decisionMalformed (message : String) : Fault := .raised (upstreamInvalid message)

def decisionCheckFields : List String := ["name", "passed", "reason_code", "evidence_ids"]

def decisionCheck (value : Json F) : Decoded (StoredDecisionCheck F) :=
  match objectOf value with
  | none => .error (decisionMalformed "Lifecycle decision checks are malformed.")
  | some check => do
      insist (fieldSet check = sortedSet decisionCheckFields)
        (decisionMalformed "Lifecycle decision checks are malformed.")
      match arrayOf (get check "evidence_ids") with
      | none => .error (decisionMalformed "Lifecycle decision evidence is malformed.")
      | some evidence =>
        return ⟨get check "name", get check "passed", get check "reason_code", evidence⟩

def decisionChecks (record : Members F) : Decoded (List (StoredDecisionCheck F)) :=
  match arrayOf (get record "checks") with
  | none => .error (decisionMalformed "Lifecycle decision checks are malformed.")
  | some checks => checks.mapM decisionCheck

def listOf (record : Members F) (key : String) : Decoded (List (Json F)) :=
  match arrayOf (get record key) with
  | none => .error (decisionMalformed "Lifecycle decision is malformed.")
  | some items => .ok items

def memberAt (record : Members F) (key : String) : Decoded (Json F) :=
  match present record key with
  | none => .error (.keyError key)
  | some value => .ok value

/-- What the records of all families have, apart from the status. -/
def decisionValues (record : Members F) : Decoded (StoredDecision F) := do
  let reasonCodes ← listOf record "reason_codes"
  let evidenceIds ← listOf record "evidence_ids"
  let unresolvedFacts ← listOf record "unresolved_facts"
  let candidateIds ← listOf record "candidate_ids"
  let checks ← decisionChecks record
  return ⟨.null, none, reasonCodes, checks, evidenceIds, unresolvedFacts, candidateIds⟩

def decisionOf (record : Members F) : Decoded (StoredDecision F) := do
  let values ← decisionValues record
  let status ← memberAt record "status"
  return { values with status }

def guardDecision (record : Members F) : Decoded (StoredDecision F) := decisionOf record

def boundDecision (record : Members F) : Decoded (StoredDecision F) := decisionOf record

def releaseDecision (record : Members F) : Decoded (StoredDecision F) := do
  let decision ← decisionOf record
  let classification ← memberAt record "classification"
  return { decision with classification := some classification }

def storedTexts (values : List String) : List (Json F) := values.map .str

def storedDecisionCheck (check : DecisionCheck) : StoredDecisionCheck Empty :=
  ⟨.str check.name, .bool check.passed, optionalText check.reasonCode,
    storedTexts check.evidenceIds⟩

/-- The decision that the members of a record stand for. -/
def storedDecision (status : String) (classification : Option String) (reasonCodes : List String)
    (checks : List DecisionCheck) (facts : DecisionFacts) : StoredDecision Empty where
  status := .str status
  classification := classification.map .str
  reasonCodes := storedTexts reasonCodes
  checks := checks.map storedDecisionCheck
  evidenceIds := storedTexts facts.evidenceIds
  unresolvedFacts := storedTexts facts.unresolvedFacts
  candidateIds := storedTexts facts.candidateIds

def guardStored (decision : GuardDecision) : StoredDecision Empty :=
  storedDecision decision.status.text none decision.reasonCodes decision.checks decision.facts

def boundStored (decision : BoundDecision) : StoredDecision Empty :=
  storedDecision decision.status.text none decision.reasonCodes decision.checks decision.facts

def releaseStored (decision : ReleaseDecision) : StoredDecision Empty :=
  storedDecision decision.status.text (some decision.classification.text) decision.reasonCodes
    decision.checks decision.facts

/-- The decision that is read differs from the other in the order of its checks at most. -/
structure Faithful (read : Decoded (StoredDecision F)) (decision : StoredDecision F) : Prop where
  returned : ∃ checks, read = .ok { decision with checks } ∧ checks.Perm decision.checks

theorem check_read (check : DecisionCheck) :
    decisionCheck check.toDict = .ok (storedDecisionCheck check) := by
  have fields : fieldSet [("name", .str check.name), ("passed", .bool check.passed),
      ("reason_code", optionalText check.reasonCode), ("evidence_ids", texts check.evidenceIds)] =
      sortedSet decisionCheckFields := rfl
  unfold decisionCheck DecisionCheck.toDict
  dsimp only [objectOf]
  rw [fields, decide_eq_true rfl]
  rfl

theorem checks_read (checks : List DecisionCheck) :
    (checks.map DecisionCheck.toDict).mapM decisionCheck =
      .ok (checks.map storedDecisionCheck) := by
  induction checks with
  | nil => rfl
  | cons check checks ih =>
    rw [List.map_cons, List.mapM_cons, ih, check_read]
    rfl

theorem values_read (status : String) (reasonCodes : List String) (checks : List DecisionCheck)
    (facts : DecisionFacts) (rest : Members Empty) :
    decisionOf (decisionMembers status reasonCodes checks facts ++ rest) =
      .ok (storedDecision status none reasonCodes checks facts) := by
  have read : decisionChecks (decisionMembers status reasonCodes checks facts ++ rest) =
      .ok (checks.map storedDecisionCheck) := by
    rw [← checks_read]
    rfl
  unfold decisionOf decisionValues
  rw [read]
  rfl

theorem recorded_perm_iff (checks : List DecisionCheck) :
    ((recordedChecks checks).map storedDecisionCheck).Perm (checks.map storedDecisionCheck) ↔
      checks.length ≤ 64 := by
  unfold recordedChecks
  constructor
  · intro permuted
    have count := permuted.length_eq
    rw [List.length_map, List.length_map, List.length_take, List.length_insertionSort] at count
    omega
  · intro few
    apply List.Perm.map
    rw [List.take_of_length_le (by rw [List.length_insertionSort]; exact few)]
    exact List.perm_insertionSort _ _

theorem faithful_iff (status : String) (classification : Option String) (reasonCodes : List String)
    (checks : List DecisionCheck) (facts : DecisionFacts) (read : Decoded (StoredDecision Empty))
    (same : read = .ok (storedDecision status classification reasonCodes (recordedChecks checks)
      facts)) : Faithful read (storedDecision status classification reasonCodes checks facts) ↔
      checks.length ≤ 64 := by
  rw [← recorded_perm_iff]
  constructor
  · intro faithful
    obtain ⟨found, ran, permuted⟩ := faithful.returned
    rw [same] at ran
    have listed := congrArg StoredDecision.checks (Except.ok.inj ran)
    change (recordedChecks checks).map storedDecisionCheck = found at listed
    rw [listed]
    exact permuted
  · intro permuted
    exact ⟨_, same, permuted⟩

theorem release_record_read (decision : ReleaseDecision) :
    releaseDecision (releaseRecord decision) = .ok (storedDecision decision.status.text
      (some decision.classification.text) decision.reasonCodes (recordedChecks decision.checks)
      decision.facts) := by
  unfold releaseDecision releaseRecord
  rw [values_read]
  rfl

theorem plain_record_read (status : String) (reasonCodes : List String)
    (checks : List DecisionCheck) (facts : DecisionFacts) :
    decisionOf (decisionMembers status reasonCodes checks facts) =
      .ok (storedDecision status none reasonCodes checks facts) := by
  have read := values_read status reasonCodes checks facts []
  rw [List.append_nil] at read
  exact read

/-- A decision comes back from its record exactly where it has at most 64 checks. -/
theorem decision_records_iff (guard : GuardDecision) (bound : BoundDecision)
    (release : ReleaseDecision) :
    (Faithful (guardDecision (guardRecord guard)) (guardStored guard) ↔ guard.checks.length ≤ 64) ∧
    (Faithful (boundDecision (boundRecord bound)) (boundStored bound) ↔ bound.checks.length ≤ 64) ∧
    (Faithful (releaseDecision (releaseRecord release)) (releaseStored release) ↔
      release.checks.length ≤ 64) := by
  refine ⟨?_, ?_, ?_⟩
  · exact faithful_iff _ _ _ _ _ _ (plain_record_read _ _ _ _)
  · exact faithful_iff _ _ _ _ _ _ (plain_record_read _ _ _ _)
  · exact faithful_iff _ _ _ _ _ _ (release_record_read release)

theorem guard_checks_ne_nil (growth : GrowthCandidate) (configuration : ModeledConfiguration)
    (candidate : GuardCandidate) : guardChecks growth configuration candidate ≠ [] := by
  intro none_
  unfold guardChecks at none_
  have parts := List.append_eq_nil_iff.mp none_
  have unflagged : guardReasons growth configuration candidate = [] :=
    List.map_eq_nil_iff.mp parts.1
  rw [if_pos unflagged] at parts
  exact absurd parts.2 (List.cons_ne_nil _ _)

theorem candidates_le_checks (growth : GrowthCandidate) (configuration : ModeledConfiguration)
    (ordered : List GuardCandidate) :
    ordered.length ≤ (decideGuard growth configuration ordered).checks.length := by
  change ordered.length ≤ (ordered.flatMap (guardChecks growth configuration)).length
  induction ordered with
  | nil => exact Nat.zero_le _
  | cons candidate rest ih =>
    have left := List.length_pos_of_ne_nil (guard_checks_ne_nil growth configuration candidate)
    rw [List.length_cons, List.flatMap_cons, List.length_append]
    omega

def limitGuard (line : Nat) : GuardCandidate :=
  let values : GuardCandidate :=
    { guardId := ""
      siteFile := "src/Check.java"
      siteStartLine := line
      kind := "entries"
      resourceDimension := "entries"
      scope := "instance"
      behavior := "reject"
      dominatesGrowth := true
      rejectPathReachesGrowth := false
      configurationKey := "literal"
      configurationValue := "16"
      representation := "same"
      phase := "before_growth"
      coversMaterialization := true
      authorizationOnly := false
      evidence := ["guard_call"]
      coverageStatus := "complete" }
  { values with guardId := stableIdentifier "guard" (guardIdentity values) }

def limitGuards (count : Nat) : List GuardCandidate :=
  (List.range count).map fun index => limitGuard (index + 1)

def noConfiguration : ModeledConfiguration := .empty

theorem limit_guards_decided (count : Nat) (some_ : count ≠ 0) :
    ∃ decision, evaluateGuard Entries.sampleEntry Conclude.sampleGrowthResult Conclude.sampleFlow
        (limitGuards count) noConfiguration "complete" = .ok decision ∧
      count ≤ decision.checks.length := by
  have size : (limitGuards count).length = count := by
    rw [limitGuards, List.length_map, List.length_range]
  have filled : limitGuards count ≠ [] := by
    intro none_
    rw [none_, List.length_nil] at size
    exact some_ size.symm
  have printable : Conclude.printable noConfiguration
      GuardCandidate.configurationKey (limitGuards count) = true := by
    apply List.all_eq_true.mpr
    intro candidate member
    obtain ⟨index, -, same⟩ := List.mem_map.mp member
    rw [← same]
    rfl
  refine ⟨_, (Conclude.evaluate_guard_ok _ _ _ _ _ _ _ Conclude.sample_context (by decide) _).mpr
    ⟨if_neg filled, printable⟩, ?_⟩
  have every := candidates_le_checks Growth.sampleCandidate noConfiguration
    ((limitGuards count).insertionSort fun left right => left.guardId ≤ right.guardId)
  rw [List.length_insertionSort, size] at every
  exact every

/-- Of 65 guards that all protect the growth, the record keeps the checks of 64. -/
theorem crowded_decision_cut : ∃ decision,
    evaluateGuard Entries.sampleEntry Conclude.sampleGrowthResult Conclude.sampleFlow
        (limitGuards 65) noConfiguration "complete" = .ok decision ∧
      ¬ Faithful (guardDecision (guardRecord decision)) (guardStored decision) := by
  obtain ⟨decision, decided, many⟩ := limit_guards_decided 65 (by decide)
  refine ⟨decision, decided, ?_⟩
  intro whole
  have few := (faithful_iff _ _ _ _ _ _ (plain_record_read _ _ _ _)).mp whole
  omega

end DosWeb.Production
