import DosWeb.Conclude.Soundness

namespace DosWeb.Conclude

open Library
open Entries (EntryFact sampleEntry)
open Flows (VerifiedFlow)
open Growth (GrowthCandidate VerifiedGrowthResult)
open Lifecycle

/-! What the deciders answer where no candidate passes its checks. -/

theorem any_flagged (condition : Bool) (reason : String) (accepts : String → Bool) :
    (flagged condition reason).any accepts = (condition && accepts reason) := by
  cases condition <;> simp [flagged]

section

variable {Candidate : Type} (relation : Candidate → Candidate → Prop) [DecidableRel relation]
  (candidates : List Candidate)

include Candidate

theorem mem_sorted (candidate : Candidate) :
    candidate ∈ candidates.insertionSort relation ↔ candidate ∈ candidates :=
  (List.perm_insertionSort relation candidates).mem_iff

theorem sorted_nil : candidates.insertionSort relation = [] ↔ candidates = [] := by
  rw [← List.length_eq_zero_iff, List.length_insertionSort, List.length_eq_zero_iff]

end

/-- The configuration leaves the limit of a candidate open, or the candidate's own analysis is
incomplete. -/
def undecided (configuration : ModeledConfiguration) (key value coverageStatus : String) : Bool :=
  coverageStatus ≠ "complete" || limitFinding configuration key value = .unknown

def guardUndecided (configuration : ModeledConfiguration) (candidate : GuardCandidate) : Bool :=
  undecided configuration candidate.configurationKey candidate.configurationValue
    candidate.coverageStatus

def boundUndecided (configuration : ModeledConfiguration) (candidate : BoundCandidate) : Bool :=
  undecided configuration candidate.configurationKey candidate.configurationValue
    candidate.coverageStatus

def releaseUndecided (candidate : ReleaseCandidate) : Bool :=
  candidate.isAsync || candidate.transferOnly || candidate.coverageStatus ≠ "complete"

theorem any_limit_reasons (family : String) (configuration : ModeledConfiguration)
    (key value : String)
    (unknown : Text.endsWith (family ++ "_CONFIGURATION_UNKNOWN") "UNKNOWN" = true)
    (others : ∀ tail ∈ ["_DISABLED_CONFIGURATION", "_UNBOUNDED_CONFIGURATION",
      "_CONFIGURATION_MISMATCH"], Text.endsWith (family ++ tail) "UNKNOWN" = false) :
    (limitReasons family configuration key value).any (Text.endsWith · "UNKNOWN") =
      decide (limitFinding configuration key value = .unknown) := by
  unfold limitReasons
  cases found : limitFinding configuration key value with
  | effective => simp
  | unknown => simp [unknown]
  | disabled => simp [others]
  | unbounded => simp [others]
  | mismatch => simp [others]

variable (growth : GrowthCandidate)

theorem guard_unknown_reason (configuration : ModeledConfiguration) (candidate : GuardCandidate) :
    (guardReasons growth configuration candidate).any (Text.endsWith · "UNKNOWN") =
      guardUndecided configuration candidate := by
  have limits := any_limit_reasons "GUARD" configuration candidate.configurationKey
    candidate.configurationValue (by decide) (by decide)
  have constants : ∀ reason ∈ ["GUARD_AFTER_MATERIALIZATION", "GUARD_DOES_NOT_DOMINATE_FLOW",
      "GUARD_REJECT_PATH_REACHES_GROWTH", "GUARD_DIMENSION_MISMATCH", "GUARD_SCOPE_MISMATCH",
      "GUARD_REPRESENTATION_MISMATCH", "GUARD_FAIL_OPEN", "GUARD_DOES_NOT_COVER_GROWTH",
      "GUARD_AUTHORIZATION_ONLY"], Text.endsWith reason "UNKNOWN" = false := by decide
  have coverage : Text.endsWith "GUARD_COVERAGE_UNKNOWN" "UNKNOWN" = true := by decide
  simp only [List.forall_mem_cons] at constants
  obtain ⟨after, dominate, reject, dimension, scope, representation, open_, cover, authorization,
    _⟩ := constants
  simp only [guardReasons, List.any_append, any_flagged, limits, after, dominate, reject,
    dimension, scope, representation, open_, authorization, coverage, Bool.and_false,
    Bool.false_or, Bool.or_false, Bool.and_true, guardUndecided, undecided]
  by_cases complete : candidate.coverageStatus = "complete"
  · simp [complete, cover]
  · simp [complete]

theorem bound_unknown_reason (entry : EntryFact) (growth : GrowthCandidate)
    (configuration : ModeledConfiguration) (candidate : BoundCandidate) :
    (boundReasons entry growth configuration candidate).any (Text.endsWith · "UNKNOWN") =
      boundUndecided configuration candidate := by
  have limits := any_limit_reasons "BOUND" configuration candidate.configurationKey
    candidate.configurationValue (by decide) (by decide)
  have constants : ∀ reason ∈ ["BOUND_SCOPE_MISMATCH", "BOUND_DIMENSION_MISMATCH",
      "BOUND_RECEIVER_MISMATCH", "BOUND_RESULT_IGNORED", "BOUND_QUEUE_CONFIGURATION_MISMATCH",
      "BOUND_REQUEST_ENCODING_MISMATCH", "BOUND_FRAMEWORK_MISMATCH",
      "BOUND_CONFIGURATION_PROVENANCE_MISMATCH", "BOUND_MULTIPLICATIVE_DEMAND_UNCOVERED",
      "BOUND_POSSIBLY_OVER_BUDGET"], Text.endsWith reason "UNKNOWN" = false := by decide
  have coverage : Text.endsWith "BOUND_COVERAGE_UNKNOWN" "UNKNOWN" = true := by decide
  simp only [List.forall_mem_cons] at constants
  obtain ⟨scope, dimension, receiver, ignored, queue, encoding, framework, provenance,
    multiplicative, budget, _⟩ := constants
  have domain : (encodingReasons entry candidate).any (Text.endsWith · "UNKNOWN") = false := by
    unfold encodingReasons frameworkLimitReasonCodes
    cases limitDomain candidate with
    | none => simp [any_flagged, encoding]
    | some found => simp [any_flagged, encoding, framework, provenance]
  simp only [boundReasons, List.any_append, any_flagged, limits, domain, scope, dimension,
    receiver, ignored, queue, multiplicative, budget, coverage, Bool.and_false, Bool.false_or,
    Bool.and_true, boundUndecided, undecided, Bool.or_comm]

theorem release_unresolved_reason (candidate : ReleaseCandidate) :
    (releaseReasons growth candidate).any unresolvedReleaseReasons.contains =
      releaseUndecided candidate := by
  have constants : ∀ reason ∈ ["RELEASE_RECEIVER_OR_KEY_MISMATCHED",
      "RELEASE_INSUFFICIENT_PATH_COVERAGE", "RELEASE_NO_ACTUAL_REDUCTION"],
      unresolvedReleaseReasons.contains reason = false := by decide
  have unresolved : ∀ reason ∈ ["RELEASE_POTENTIAL_ASYNC", "RELEASE_PAYLOAD_TRANSFER_ONLY",
      "RELEASE_COVERAGE_UNKNOWN"], unresolvedReleaseReasons.contains reason = true := by decide
  simp only [List.forall_mem_cons] at constants unresolved
  obtain ⟨mismatched, insufficient, reduction, _⟩ := constants
  obtain ⟨async, transfer, coverage, _⟩ := unresolved
  simp only [releaseReasons, List.any_append, any_flagged, mismatched, insufficient, reduction,
    async, transfer, coverage, Bool.and_false, Bool.and_true, Bool.or_false, releaseUndecided]

theorem any_flatMap_iff {Candidate : Type} (candidates : List Candidate)
    (reasons : Candidate → List String) (accepts : String → Bool) (open_ : Candidate → Bool)
    (each : ∀ candidate, (reasons candidate).any accepts = open_ candidate) :
    (candidates.flatMap reasons).any accepts = candidates.any open_ := by
  rw [List.any_flatMap]
  exact congrArg candidates.any (funext each)

theorem decide_guard_unpassed (configuration : ModeledConfiguration) (ordered : List GuardCandidate)
    (unpassed : ∀ candidate ∈ ordered, guardReasons growth configuration candidate ≠ []) :
    (decideGuard growth configuration ordered).status = .unknown ↔
      ∃ candidate ∈ ordered, guardUndecided configuration candidate = true := by
  have ineffective : (ordered.any fun candidate =>
      guardReasons growth configuration candidate = []) = false := by
    simpa using unpassed
  have open_ := any_flatMap_iff ordered (guardReasons growth configuration)
    (Text.endsWith · "UNKNOWN") (guardUndecided configuration)
    (guard_unknown_reason growth configuration)
  simp only [decideGuard, ineffective, open_, Bool.false_eq_true, if_false]
  rw [← List.any_eq_true]
  split <;> simp_all

theorem decide_guard_effective (configuration : ModeledConfiguration)
    (ordered : List GuardCandidate)
    (effective : (decideGuard growth configuration ordered).status = .effective) :
    ∃ candidate ∈ ordered, guardReasons growth configuration candidate = [] := by
  simp only [decideGuard] at effective
  split at effective
  · rename_i passed
    simpa using passed
  · split at effective <;> cases effective

theorem ineffective_bound_unknown (reasons : List String) :
    (ineffectiveBound reasons).1 = .unknown ↔ reasons.any (Text.endsWith · "UNKNOWN") = true := by
  unfold ineffectiveBound
  split
  · simp_all
  · split
    · simp_all
    · split <;> simp_all

theorem ineffective_bound_effective (reasons : List String) :
    (ineffectiveBound reasons).1 ≠ .effective := by
  unfold ineffectiveBound
  split
  · simp
  · split
    · simp
    · split <;> simp

section

variable (entry : EntryFact) (growth : GrowthCandidate) (configuration : ModeledConfiguration)
  (ordered : List BoundCandidate)

theorem decide_bound_unpassed
    (unpassed : ∀ candidate ∈ ordered, boundReasons entry growth configuration candidate ≠ []) :
    (decideBound entry growth configuration ordered).status = .unknown ↔
      ∃ candidate ∈ ordered, boundUndecided configuration candidate = true := by
  have ineffective : (ordered.any fun candidate =>
      boundReasons entry growth configuration candidate = []) = false := by
    simpa using unpassed
  have open_ := any_flatMap_iff ordered (boundReasons entry growth configuration)
    (Text.endsWith · "UNKNOWN") (boundUndecided configuration)
    (bound_unknown_reason entry growth configuration)
  simp only [decideBound, ineffective, Bool.false_eq_true, if_false]
  rw [ineffective_bound_unknown, open_, List.any_eq_true]

theorem decide_bound_effective
    (effective : (decideBound entry growth configuration ordered).status = .effective) :
    ∃ candidate ∈ ordered, boundReasons entry growth configuration candidate = [] := by
  simp only [decideBound] at effective
  split at effective
  · rename_i passed
    simpa using passed
  · exact absurd effective (ineffective_bound_effective _)

end

variable (ordered : List ReleaseCandidate)

theorem decide_release_effective (effective : (decideRelease growth ordered).status = .effective) :
    (∃ candidate ∈ ordered, releaseReasons growth candidate = []) ∧
      ∀ candidate ∈ ordered, releaseUndecided candidate = false := by
  have open_ := any_flatMap_iff ordered (releaseReasons growth) unresolvedReleaseReasons.contains
    releaseUndecided (release_unresolved_reason growth)
  simp only [decideRelease, open_] at effective
  split at effective
  · rename_i released
    simp only [Bool.and_eq_true, Bool.not_eq_true', List.any_eq_true, List.any_eq_false,
      decide_eq_true_eq, Bool.not_eq_true] at released
    exact released
  · split at effective <;> cases effective

theorem classification_settled (held : ReleaseClassification)
    (settled : ∀ candidate ∈ ordered, releaseUndecided candidate = false)
    (heldSettled : held ≠ .potentialAsync ∧ held ≠ .unknown) :
    ordered.foldl (classifyCandidate growth) held ≠ .potentialAsync ∧
      ordered.foldl (classifyCandidate growth) held ≠ .unknown := by
  induction ordered generalizing held with
  | nil => exact heldSettled
  | cons candidate ordered ih =>
    have own := settled candidate (.head _)
    simp only [releaseUndecided, Bool.or_eq_false_iff] at own
    refine ih _ (fun other member => settled other (.tail _ member)) ?_
    simp only [classifyCandidate, own.1.1, own.1.2, own.2, Bool.or_self, Bool.false_eq_true,
      if_false]
    split
    · simp
    · split
      · simp
      · split
        · simp
        · exact heldSettled

theorem decide_release_unpassed (unpassed :
    ∀ candidate ∈ ordered, releaseReasons growth candidate ≠ []) :
    (decideRelease growth ordered).status = .unknown ↔
      ∃ candidate ∈ ordered, releaseUndecided candidate = true := by
  have ineffective : (ordered.any fun candidate => releaseReasons growth candidate = []) =
      false := by
    simpa using unpassed
  have open_ := any_flatMap_iff ordered (releaseReasons growth) unresolvedReleaseReasons.contains
    releaseUndecided (release_unresolved_reason growth)
  have reasons : (ordered.flatMap (releaseReasons growth)).any unresolvedReleaseReasons.contains =
      true ↔ (ordered.flatMap (releaseReasons growth)).contains "RELEASE_POTENTIAL_ASYNC" = true ∨
        ((ordered.flatMap (releaseReasons growth)).contains "RELEASE_PAYLOAD_TRANSFER_ONLY" ||
          (ordered.flatMap (releaseReasons growth)).contains "RELEASE_COVERAGE_UNKNOWN") = true := by
    simp only [List.any_eq_true, unresolvedReleaseReasons, List.contains_iff_mem, List.mem_cons,
      List.not_mem_nil, or_false, Bool.or_eq_true]
    constructor
    · rintro ⟨reason, member, rfl | rfl | rfl⟩
      · exact Or.inl member
      · exact Or.inr (Or.inl member)
      · exact Or.inr (Or.inr member)
    · rintro (member | member | member)
      · exact ⟨_, member, Or.inl rfl⟩
      · exact ⟨_, member, Or.inr (Or.inl rfl)⟩
      · exact ⟨_, member, Or.inr (Or.inr rfl)⟩
  rw [open_] at reasons
  simp only [decideRelease, ineffective, Bool.false_and, Bool.false_eq_true, if_false]
  rw [← List.any_eq_true, reasons]
  unfold unreleasedClassification
  split
  · simp_all
  · rename_i noAsync
    split
    · simp_all
    · rename_i noOther
      have settled : ∀ candidate ∈ ordered, releaseUndecided candidate = false := by
        have none_ : ordered.any releaseUndecided ≠ true := by
          rw [Ne, reasons]
          exact not_or.mpr ⟨noAsync, noOther⟩
        simpa using none_
      have held := classification_settled growth ordered .notEffective settled (by simp)
      split
      · simp_all
      · split <;> simp_all

section

variable (entry : EntryFact) (growth : VerifiedGrowthResult) (flow : VerifiedFlow)
  (candidate : GrowthCandidate) (configuration : ModeledConfiguration) (coverageStatus : String)
  (guards : List GuardCandidate) (bounds : List BoundCandidate) (releases : List ReleaseCandidate)

/-- Every configured integer that a candidate is compared with has a text. -/
def printable {Candidate : Type} (key : Candidate → String) (candidates : List Candidate) : Bool :=
  candidates.all fun candidate => limitPrintable configuration (key candidate)

theorem printable_sorted {Candidate : Type} (key : Candidate → String)
    (relation : Candidate → Candidate → Prop) [DecidableRel relation]
    (candidates : List Candidate) : ((candidates.insertionSort relation).all fun candidate =>
      limitPrintable configuration (key candidate)) = printable configuration key candidates := by
  rw [Bool.eq_iff_iff, printable, List.all_eq_true, List.all_eq_true]
  simp only [mem_sorted]

variable (context : PathContext entry growth flow candidate)
  (known : coverageStatus ∈ coverageStatuses)

theorem complete_known : "complete" ∈ coverageStatuses := by decide

include context known in
theorem evaluate_guard_ok (decision : GuardDecision) :
    evaluateGuard entry growth flow guards configuration coverageStatus = .ok decision ↔
      (if guards = [] then
        if coverageStatus = "complete" then ⟨.ineffective, ["GUARD_ABSENT"], [], [], [], []⟩
        else ⟨.unknown, ["GUARD_COVERAGE_UNKNOWN"], [], [], ["guard_coverage"], []⟩
      else decideGuard candidate configuration (guards.insertionSort
        fun left right => left.guardId ≤ right.guardId)) = decision ∧
      printable configuration GuardCandidate.configurationKey guards = true := by
  by_cases empty : guards = []
  · by_cases complete : coverageStatus = "complete" <;>
      simp [evaluateGuard, (validate_context_ok _ _ _ _).mpr context, bind_ok, known,
        complete_known, empty, complete, printable, pure, Except.pure]
  · simp [evaluateGuard, (validate_context_ok _ _ _ _).mpr context, bind_ok, known, sorted_nil,
      empty, printable_sorted, pure, Except.pure, and_comm]

include context known in
theorem evaluate_bound_ok (decision : BoundDecision) :
    evaluateBound entry growth flow bounds configuration coverageStatus = .ok decision ↔
      (if bounds = [] then
        if coverageStatus = "complete" then ⟨.absent, ["BOUND_ABSENT"], [], [], [], []⟩
        else ⟨.unknown, ["BOUND_COVERAGE_UNKNOWN"], [], [], ["bound_coverage"], []⟩
      else decideBound entry candidate configuration (bounds.insertionSort
        fun left right => left.boundId ≤ right.boundId)) = decision ∧
      printable configuration BoundCandidate.configurationKey bounds = true := by
  by_cases empty : bounds = []
  · by_cases complete : coverageStatus = "complete" <;>
      simp [evaluateBound, (validate_context_ok _ _ _ _).mpr context, bind_ok, known,
        complete_known, empty, complete, printable, pure, Except.pure]
  · simp [evaluateBound, (validate_context_ok _ _ _ _).mpr context, bind_ok, known, sorted_nil,
      empty, printable_sorted, pure, Except.pure, and_comm]

include context known in
theorem evaluate_release_ok (decision : ReleaseDecision) :
    evaluateSynchronousRelease entry growth flow releases coverageStatus = .ok decision ↔
      (if releases = [] then
        if coverageStatus = "complete" then ⟨.absent, .absent, ["RELEASE_ABSENT"], [], [], [], []⟩
        else ⟨.unknown, .unknown, ["RELEASE_COVERAGE_UNKNOWN"], [], [], ["release_coverage"], []⟩
      else decideRelease candidate (releases.insertionSort
        fun left right => left.releaseId ≤ right.releaseId)) = decision := by
  by_cases empty : releases = []
  · by_cases complete : coverageStatus = "complete" <;>
      simp [evaluateSynchronousRelease, (validate_context_ok _ _ _ _).mpr context, bind_ok, known,
        complete_known, empty, complete, pure, Except.pure]
  · simp [evaluateSynchronousRelease, (validate_context_ok _ _ _ _).mpr context, bind_ok, known,
      sorted_nil, empty, pure, Except.pure]

/-- A guard decision that leaves open what incomplete coverage leaves open, and that is
effective only through a guard without failed checks. -/
def GuardFailsClosed : Prop :=
  (coverageStatus ≠ "complete" → (∀ guard ∈ guards, guardReasons candidate configuration guard ≠ []) →
    ∃ decision, evaluateGuard entry growth flow guards configuration coverageStatus = .ok decision ∧
      decision.status = .unknown ∧ ∀ bound amplification reachability evaluation,
        evaluateAssertion1 growth flow decision bound amplification reachability = .ok evaluation →
          evaluation.status ≠ .matched) ∧
  ∀ decision, evaluateGuard entry growth flow guards configuration coverageStatus = .ok decision →
    decision.status = .effective → ∃ guard ∈ guards, guardReasons candidate configuration guard = []

/-- The same of a bound decision, which both assertions consult. -/
def BoundFailsClosed : Prop := (coverageStatus ≠ "complete" →
    (∀ bound ∈ bounds, boundReasons entry candidate configuration bound ≠ []) →
    ∃ decision, evaluateBound entry growth flow bounds configuration coverageStatus = .ok decision ∧
      decision.status = .unknown ∧ (∀ guard amplification reachability evaluation,
        evaluateAssertion1 growth flow guard decision amplification reachability = .ok evaluation →
          evaluation.status ≠ .matched) ∧ ∀ release reachability repeatability evaluation,
        evaluateAssertion2 growth flow decision release reachability repeatability =
          .ok evaluation → evaluation.status ≠ .matched) ∧
  ∀ decision, evaluateBound entry growth flow bounds configuration coverageStatus = .ok decision →
    decision.status = .effective →
      ∃ bound ∈ bounds, boundReasons entry candidate configuration bound = []

/-- The same of a release decision, effective only where no release is left open. -/
def ReleaseFailsClosed : Prop :=
  (coverageStatus ≠ "complete" → (∀ release ∈ releases, releaseReasons candidate release ≠ []) →
    ∃ decision, evaluateSynchronousRelease entry growth flow releases coverageStatus =
        .ok decision ∧ decision.status = .unknown ∧ ∀ bound reachability repeatability evaluation,
        evaluateAssertion2 growth flow bound decision reachability repeatability =
          .ok evaluation → evaluation.status ≠ .matched) ∧
  ∀ decision, evaluateSynchronousRelease entry growth flow releases coverageStatus = .ok decision →
    decision.status = .effective → (∃ release ∈ releases, releaseReasons candidate release = []) ∧
        ∀ release ∈ releases, release.isAsync = false ∧ release.transferOnly = false ∧
          release.coverageStatus = "complete"

/-- The coverage is complete, a candidate passes, there is none, or one is left open itself and
every configured integer has a text. -/
def GuardsSettled : Prop := coverageStatus = "complete" ∨
    (∃ guard ∈ guards, guardReasons candidate configuration guard = []) ∨ guards = [] ∨
    (printable configuration GuardCandidate.configurationKey guards = true ∧
      ∃ guard ∈ guards, guardUndecided configuration guard = true)

def BoundsSettled : Prop := coverageStatus = "complete" ∨
    (∃ bound ∈ bounds, boundReasons entry candidate configuration bound = []) ∨ bounds = [] ∨
    (printable configuration BoundCandidate.configurationKey bounds = true ∧
      ∃ bound ∈ bounds, boundUndecided configuration bound = true)

def ReleasesSettled : Prop := coverageStatus = "complete" ∨
    (∃ release ∈ releases, releaseReasons candidate release = []) ∨ releases = [] ∨
    ∃ release ∈ releases, releaseUndecided release = true

theorem unknown_guard_unmatched (decision : GuardDecision) (unknown : decision.status = .unknown)
    (bound : BoundDecision) (amplification reachability : Option ExternalDecision)
    (evaluation : AssertionEvaluation) (evaluated : evaluateAssertion1 growth flow decision bound
      amplification reachability = .ok evaluation) : evaluation.status ≠ .matched := by
  intro matched
  obtain ⟨_, holds⟩ := (evaluate_assertion_1_ok _ _ _ _ _ _ _).mp evaluated
  rw [holds.status] at matched
  have ineffective := (assertion_1_matched _ _ _ _ _ _ matched).2.2.1
  rw [unknown] at ineffective
  cases ineffective

theorem unknown_bound_unmatched (decision : BoundDecision) (unknown : decision.status = .unknown) :
    (∀ guard amplification reachability evaluation,
      evaluateAssertion1 growth flow guard decision amplification reachability = .ok evaluation →
        evaluation.status ≠ .matched) ∧ ∀ release reachability repeatability evaluation,
      evaluateAssertion2 growth flow decision release reachability repeatability = .ok evaluation →
        evaluation.status ≠ .matched := by
  constructor
  · intro guard amplification reachability evaluation evaluated matched
    obtain ⟨_, holds⟩ := (evaluate_assertion_1_ok _ _ _ _ _ _ _).mp evaluated
    rw [holds.status] at matched
    exact (assertion_1_matched _ _ _ _ _ _ matched).2.2.2.1 unknown
  · intro release reachability repeatability evaluation evaluated matched
    obtain ⟨_, holds⟩ := (evaluate_assertion_2_ok _ _ _ _ _ _ _).mp evaluated
    rw [holds.status] at matched
    exact (assertion_2_matched _ _ _ _ _ _ matched).2.2.1 unknown

theorem unknown_release_unmatched (decision : ReleaseDecision)
    (unknown : decision.status = .unknown) (bound : BoundDecision)
    (reachability repeatability : Option ExternalDecision) (evaluation : AssertionEvaluation)
    (evaluated : evaluateAssertion2 growth flow bound decision reachability repeatability =
      .ok evaluation) : evaluation.status ≠ .matched := by
  intro matched
  obtain ⟨_, holds⟩ := (evaluate_assertion_2_ok _ _ _ _ _ _ _).mp evaluated
  rw [holds.status] at matched
  exact (assertion_2_matched _ _ _ _ _ _ matched).2.2.2.2.1 unknown

omit context known in
theorem fails_closed_iff {Candidate Decision : Type} (items : List Candidate)
    (passes undecided : Candidate → Prop) (complete printed granted : Prop) (outcome : Decision)
    (evaluated unknown effective unmatched : Decision → Prop)
    (value : ∀ decision, evaluated decision ↔ outcome = decision ∧ printed)
    (none_ : items = [] → printed ∧ (¬ complete → unknown outcome) ∧ ¬ effective outcome)
    (some_ : items ≠ [] → ((∀ item ∈ items, ¬ passes item) →
      (unknown outcome ↔ ∃ item ∈ items, undecided item)) ∧ (effective outcome → granted))
    (closed : ∀ decision, unknown decision → unmatched decision) :
    ((¬ complete → (∀ item ∈ items, ¬ passes item) →
        ∃ decision, evaluated decision ∧ unknown decision ∧ unmatched decision) ∧
      ∀ decision, evaluated decision → effective decision → granted) ↔
      complete ∨ (∃ item ∈ items, passes item) ∨ items = [] ∨
        (printed ∧ ∃ item ∈ items, undecided item) := by
  constructor
  · rintro ⟨held, _⟩
    by_contra unsettled
    simp only [not_or, not_exists, not_and] at unsettled
    obtain ⟨incomplete, unpassed, filled, settled⟩ := unsettled
    obtain ⟨decision, evaluation, open_, _⟩ := held incomplete unpassed
    obtain ⟨rfl, shown⟩ := (value decision).mp evaluation
    obtain ⟨item, member, own⟩ := (((some_ filled).1 unpassed).mp open_)
    exact settled shown item member own
  · intro settled
    refine ⟨fun incomplete unpassed => ?_, fun decision evaluation granting => ?_⟩
    · have decided : evaluated outcome ∧ unknown outcome := by
        rcases settled with whole | ⟨item, member, passed⟩ | empty | ⟨shown, item, member, own⟩
        · exact absurd whole incomplete
        · exact absurd passed (unpassed item member)
        · exact ⟨(value _).mpr ⟨rfl, (none_ empty).1⟩, (none_ empty).2.1 incomplete⟩
        · exact ⟨(value _).mpr ⟨rfl, shown⟩,
            ((some_ (List.ne_nil_of_mem member)).1 unpassed).mpr ⟨item, member, own⟩⟩
      exact ⟨outcome, decided.1, decided.2, closed outcome decided.2⟩
    · obtain ⟨rfl, _⟩ := (value decision).mp evaluation
      by_cases empty : items = []
      · exact absurd granting (none_ empty).2.2
      · exact (some_ empty).2 granting

include context known in
theorem guard_fails_closed_iff :
    GuardFailsClosed entry growth flow candidate configuration coverageStatus guards ↔
      GuardsSettled candidate configuration coverageStatus guards := by
  apply fails_closed_iff guards _ _ _ _ _ _ _ _ _ _ (evaluate_guard_ok entry growth flow candidate
    configuration coverageStatus guards context known)
  · intro empty
    by_cases complete : coverageStatus = "complete" <;> simp [empty, complete, printable]
  · intro some_
    simp only [if_neg some_]
    constructor
    · intro unpassed
      rw [decide_guard_unpassed _ _ _ fun guard member =>
        unpassed guard ((mem_sorted _ _ _).mp member)]
      simp only [mem_sorted]
    · intro effective
      obtain ⟨guard, member, passed⟩ := decide_guard_effective _ _ _ effective
      exact ⟨guard, (mem_sorted _ _ _).mp member, passed⟩
  · exact unknown_guard_unmatched growth flow

include context known in
theorem bound_fails_closed_iff :
    BoundFailsClosed entry growth flow candidate configuration coverageStatus bounds ↔
      BoundsSettled entry candidate configuration coverageStatus bounds := by
  apply fails_closed_iff bounds _ _ _ _ _ _ _ _ _ _ (evaluate_bound_ok entry growth flow candidate
    configuration coverageStatus bounds context known)
  · intro empty
    by_cases complete : coverageStatus = "complete" <;> simp [empty, complete, printable]
  · intro some_
    simp only [if_neg some_]
    constructor
    · intro unpassed
      rw [decide_bound_unpassed _ _ _ _ fun bound member =>
        unpassed bound ((mem_sorted _ _ _).mp member)]
      simp only [mem_sorted]
    · intro effective
      obtain ⟨bound, member, passed⟩ := decide_bound_effective _ _ _ _ effective
      exact ⟨bound, (mem_sorted _ _ _).mp member, passed⟩
  · exact unknown_bound_unmatched growth flow

include context known in
theorem release_fails_closed_iff :
    ReleaseFailsClosed entry growth flow candidate coverageStatus releases ↔
      ReleasesSettled candidate coverageStatus releases := by
  have value (decision : ReleaseDecision) := (evaluate_release_ok entry growth flow candidate
    coverageStatus releases context known decision).trans (and_iff_left trivial).symm
  rw [ReleasesSettled, ← true_and (∃ release ∈ releases, releaseUndecided release = true)]
  apply fails_closed_iff releases _ _ _ _ _ _ _ _ _ _ value
  · intro empty
    by_cases complete : coverageStatus = "complete" <;> simp [empty, complete]
  · intro some_
    simp only [if_neg some_]
    constructor
    · intro unpassed
      rw [decide_release_unpassed _ _ fun release member =>
        unpassed release ((mem_sorted _ _ _).mp member)]
      simp only [mem_sorted]
    · intro effective
      obtain ⟨⟨release, member, passed⟩, decided⟩ := decide_release_effective _ _ effective
      refine ⟨⟨release, (mem_sorted _ _ _).mp member, passed⟩, fun other present => ?_⟩
      have own := decided other ((mem_sorted _ _ _).mpr present)
      simpa [releaseUndecided, and_assoc] using own
  · exact unknown_release_unmatched growth flow

include context known in
/-- The deciders fail closed exactly where their candidates are settled. -/
theorem deciders_fail_closed_iff :
    (GuardFailsClosed entry growth flow candidate configuration coverageStatus guards ∧
        BoundFailsClosed entry growth flow candidate configuration coverageStatus bounds ∧
        ReleaseFailsClosed entry growth flow candidate coverageStatus releases) ↔
      GuardsSettled candidate configuration coverageStatus guards ∧
        BoundsSettled entry candidate configuration coverageStatus bounds ∧
        ReleasesSettled candidate coverageStatus releases := by
  rw [guard_fails_closed_iff entry growth flow candidate configuration coverageStatus guards
      context known,
    bound_fails_closed_iff entry growth flow candidate configuration coverageStatus bounds
      context known,
    release_fails_closed_iff entry growth flow candidate coverageStatus releases context known]

end

theorem sample_context :
    PathContext sampleEntry sampleGrowthResult sampleFlow Growth.sampleCandidate :=
  ⟨rfl, rfl, rfl, rfl, rfl⟩

/-- A guard after the growth, of complete coverage of its own. -/
def sampleLateGuard : GuardCandidate :=
  ⟨"guard:late", "src/Cache.java", 14, "input_validation", "entries", "instance", "reject", true,
    false, "literal", "64", "raw_body", "after_growth", true, false, ["if (size > 64)"], "complete"⟩

def flagConfiguration : ModeledConfiguration :=
  ⟨[("cache.limited", .flag true)], by decide, by simp, List.pairwise_singleton _ _⟩

/-- A bound of whose limit only a flag is known. -/
def sampleFlagBound : BoundCandidate :=
  ⟨"bound:flag", "src/Cache.java", 13, "capacity_rejection", "entries", "instance", "reject", "this",
    "map", true, "cache.limited", "64", "before_growth", true, "none", "", false,
    ["if (full())"], "complete"⟩

def sampleAsyncRelease : ReleaseCandidate :=
  ⟨"release:async", "src/Cache.java", 16, "remove", "entries", "instance", "map", "key", false, true,
    true, true, true, false, "executor", ["pool.submit(clear)"], "complete"⟩

/-- Under partial coverage the failed candidates leave their own limits open. -/
theorem deciders_fail_closed_iff_sample :
    (GuardFailsClosed sampleEntry sampleGrowthResult sampleFlow Growth.sampleCandidate
          flagConfiguration "partial" [{ sampleLateGuard with configurationKey := "cache.limited" }] ∧
        BoundFailsClosed sampleEntry sampleGrowthResult sampleFlow Growth.sampleCandidate
          flagConfiguration "partial" [sampleFlagBound] ∧
        ReleaseFailsClosed sampleEntry sampleGrowthResult sampleFlow Growth.sampleCandidate
          "partial" [sampleAsyncRelease]) :=
  (deciders_fail_closed_iff _ _ _ _ _ _ _ _ _ sample_context (by decide)).mpr
    ⟨.inr (.inr (.inr ⟨by decide, _, .head _, by decide⟩)),
      .inr (.inr (.inr ⟨by decide, _, .head _, by decide⟩)),
      .inr (.inr (.inr ⟨_, .head _, by decide⟩))⟩

/-- Under partial coverage a single guard that fails makes the decision ineffective. -/
theorem late_guard_decided :
    ¬ GuardFailsClosed sampleEntry sampleGrowthResult sampleFlow Growth.sampleCandidate
      ⟨[], by decide, by simp, List.Pairwise.nil⟩ "partial" [sampleLateGuard] := by
  rintro ⟨closed, _⟩
  have failed : guardReasons Growth.sampleCandidate ⟨[], by decide, by simp, List.Pairwise.nil⟩
      sampleLateGuard = ["GUARD_AFTER_MATERIALIZATION"] := by decide
  obtain ⟨decision, evaluated, unknown, _⟩ := closed (by decide) (by simp [failed])
  rw [evaluate_guard_ok _ _ _ _ _ _ _ sample_context (by decide)] at evaluated
  obtain ⟨rfl, _⟩ := evaluated
  revert unknown
  decide

end DosWeb.Conclude
