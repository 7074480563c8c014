import DosWeb.Conclude.FailClosed
import DosWeb.Lifecycle.Evidence

/-!
How a family of protections stands to a growth: left open, effective or ineffective. The
standing of a decision is that of its candidates, and further candidates never turn an
effective or an open family into an ineffective one.
-/

namespace DosWeb.Conclude

open Library.Gates Library.OrderedSet
open Entries (EntryFact)
open Flows (VerifiedFlow)
open Growth (GrowthCandidate VerifiedGrowthResult)
open Lifecycle

inductive Standing where
  | undecided
  | effective
  | ineffective
  deriving DecidableEq

section

variable {Candidate : Type} (leavesOpen passes : Candidate → Bool)

/-- The standing of candidates of which there is at least one. -/
def standingAmong (candidates : List Candidate) : Standing :=
  if candidates.any leavesOpen then .undecided
  else if candidates.any passes then .effective
  else .ineffective

/-- Without a candidate a family is ineffective if it is covered, and open otherwise. -/
def standingOf (candidates : List Candidate) (covered : Bool) : Standing :=
  if candidates.isEmpty then
    if covered then .ineffective else .undecided
  else standingAmong leavesOpen passes candidates

/-- What was effective or open stays so; what was open stays open. -/
def Keeps (before after : Standing) : Prop :=
  after = before ∨ after = .undecided ∨ before = .ineffective

theorem keeps_ineffective (before after : Standing) (keeps : Keeps before after)
    (ineffective : after = .ineffective) : before = .ineffective := by
  rcases keeps with same | open_ | already
  · rw [← same, ineffective]
  · rw [open_] at ineffective
    cases ineffective
  · exact already

theorem keeps_decided (before after : Standing) (keeps : Keeps before after)
    (decided : after ≠ .undecided) : before ≠ .undecided := by
  rcases keeps with same | open_ | already
  · rwa [← same]
  · exact absurd open_ decided
  · rw [already]
    simp

theorem standing_among_mem (candidates others : List Candidate)
    (same : ∀ candidate, candidate ∈ candidates ↔ candidate ∈ others) :
    standingAmong leavesOpen passes candidates = standingAmong leavesOpen passes others := by
  have any : ∀ accepts : Candidate → Bool, candidates.any accepts = others.any accepts := by
    intro accepts
    rw [Bool.eq_iff_iff, List.any_eq_true, List.any_eq_true]
    simp only [same]
  unfold standingAmong
  rw [any, any]

variable (candidates others : List Candidate) (covered otherCovered : Bool)

theorem standing_covered
    (complete : ∀ candidate ∈ candidates, leavesOpen candidate = false → covered = true)
    (decided : standingOf leavesOpen passes candidates covered ≠ .undecided) : covered = true := by
  unfold standingOf standingAmong at decided
  cases candidates with
  | nil =>
    cases covered with
    | false => exact absurd rfl decided
    | true => rfl
  | cons candidate rest =>
    apply complete candidate (.head _)
    by_contra open_
    have leaves : leavesOpen candidate = true := by simpa using open_
    apply decided
    simp [leaves]

theorem standing_keeps (within : ∀ candidate ∈ candidates, candidate ∈ others)
    (complete : ∀ candidate ∈ others, leavesOpen candidate = false → otherCovered = true)
    (uncompleted : ¬ (candidates = [] ∧ covered = false ∧ otherCovered = true)) :
    Keeps (standingOf leavesOpen passes candidates covered)
      (standingOf leavesOpen passes others otherCovered) := by
  cases candidates with
  | nil =>
    cases covered with
    | true => exact Or.inr (Or.inr rfl)
    | false =>
      refine Or.inr (Or.inl ?_)
      by_contra decided
      exact uncompleted ⟨rfl, rfl, standing_covered leavesOpen passes others otherCovered complete
        decided⟩
  | cons candidate rest =>
    have filled : others.isEmpty = false := by
      rw [List.isEmpty_eq_false_iff]
      exact List.ne_nil_of_mem (within candidate (.head _))
    have grows : ∀ accepts : Candidate → Bool, (candidate :: rest).any accepts = true →
        others.any accepts = true := by
      intro accepts found
      obtain ⟨one, member, accepted⟩ := List.any_eq_true.mp found
      exact List.any_eq_true.mpr ⟨one, within one member, accepted⟩
    unfold standingOf
    rw [filled, List.isEmpty_cons]
    simp only [Bool.false_eq_true, if_false, standingAmong]
    by_cases open_ : others.any leavesOpen = true
    · rw [if_pos open_]
      exact Or.inr (Or.inl rfl)
    · have closed : ¬ (candidate :: rest).any leavesOpen = true := fun found =>
        open_ (grows leavesOpen found)
      rw [if_neg open_, if_neg closed]
      by_cases passing : (candidate :: rest).any passes = true
      · rw [if_pos passing, if_pos (grows passes passing)]
        exact Or.inl rfl
      · rw [if_neg passing]
        exact Or.inr (Or.inr rfl)

end

def guardStanding (decision : GuardDecision) : Standing :=
  if decision.status = .unknown || decision.unresolvedFacts ≠ [] then .undecided
  else if decision.status = .effective then .effective
  else .ineffective

def boundStanding (decision : BoundDecision) : Standing :=
  if decision.status = .unknown || decision.unresolvedFacts ≠ [] then .undecided
  else if decision.status = .effective then .effective
  else .ineffective

def releaseStanding (decision : ReleaseDecision) : Standing :=
  if decision.classification = .potentialAsync || decision.status = .unknown ||
      decision.unresolvedFacts ≠ [] || decision.classification = .unknown then .undecided
  else if decision.status = .effective then .effective
  else .ineffective

section

variable (entry : EntryFact) (anchor : GrowthCandidate) (configuration : ModeledConfiguration)

def guardPasses (candidate : GuardCandidate) : Bool :=
  guardReasons anchor configuration candidate = []

def boundPasses (candidate : BoundCandidate) : Bool :=
  boundReasons entry anchor configuration candidate = []

def releasePasses (candidate : ReleaseCandidate) : Bool := releaseReasons anchor candidate = []

theorem limit_unresolved_open (literalFact key value : String) :
    limitUnresolved literalFact configuration key value ≠ [] ↔
      limitFinding configuration key value = .unknown := by
  unfold limitUnresolved
  by_cases unknown : limitFinding configuration key value = .unknown
  · by_cases literal : key = "literal" <;> simp [unknown, literal]
  · simp [unknown]

theorem unresolved_any {Candidate : Type} (facts : Candidate → List String)
    (leavesOpen : Candidate → Bool)
    (each : ∀ candidate, facts candidate ≠ [] ↔ leavesOpen candidate = true)
    (candidates : List Candidate) :
    sortedSet (candidates.flatMap facts) ≠ [] ↔ candidates.any leavesOpen = true := by
  rw [Ne, sortedSet_eq_nil, List.flatMap_eq_nil_iff, List.any_eq_true]
  simp only [not_forall, each, exists_prop]

theorem guard_unresolved_open (candidate : GuardCandidate) :
    guardUnresolved configuration candidate ≠ [] ↔ guardUndecided configuration candidate = true := by
  have limits := limit_unresolved_open configuration "literal_limit" candidate.configurationKey
    candidate.configurationValue
  simp only [guardUnresolved, guardUndecided, undecided, Ne, List.append_eq_nil_iff, flagged_eq_nil,
    Bool.or_eq_true, decide_eq_true_eq, not_and_or] at limits ⊢
  rw [limits]
  simp [or_comm]

theorem bound_unresolved_open (candidate : BoundCandidate) :
    boundUnresolved configuration candidate ≠ [] ↔ boundUndecided configuration candidate = true := by
  have limits := limit_unresolved_open configuration "literal_capacity" candidate.configurationKey
    candidate.configurationValue
  simp only [boundUnresolved, boundUndecided, undecided, Ne, List.append_eq_nil_iff, flagged_eq_nil,
    Bool.or_eq_true, decide_eq_true_eq, not_and_or] at limits ⊢
  rw [limits]
  simp [or_comm]

theorem release_unresolved_open (candidate : ReleaseCandidate) :
    releaseUnresolved candidate ≠ [] ↔ releaseUndecided candidate = true := by
  simp only [releaseUnresolved, releaseUndecided, Ne, List.append_eq_nil_iff, flagged_eq_nil,
    Bool.or_eq_true, not_and_or]
  simp

/-- A family is open where it is unknown or leaves facts open, else effective or ineffective. -/
theorem decided_standing {Candidate : Type} (leavesOpen passes : Candidate → Bool)
    (ordered : List Candidate) (facts : List String) (isOpen isUnknown isEffective : Prop)
    [Decidable isOpen] [Decidable isEffective] (opens : isOpen ↔ isUnknown ∨ facts ≠ [])
    (leaves : facts ≠ [] ↔ ordered.any leavesOpen = true) (known : isEffective → ¬ isUnknown)
    (effective : ordered.any passes = true → ordered.any leavesOpen ≠ true → isEffective)
    (passed : isEffective → ∃ candidate ∈ ordered, passes candidate = true)
    (unpassed : (∀ candidate ∈ ordered, passes candidate = false) →
      (isUnknown ↔ ∃ candidate ∈ ordered, leavesOpen candidate = true)) :
    (if isOpen then Standing.undecided else if isEffective then .effective else .ineffective) =
      standingAmong leavesOpen passes ordered := by
  rw [← List.any_eq_true] at passed
  rw [← List.any_eq_true] at unpassed
  rw [leaves] at opens
  unfold standingAmong
  by_cases left : ordered.any leavesOpen = true
  · rw [if_pos left, if_pos (opens.mpr (Or.inr left))]
  · rw [if_neg left]
    by_cases passing : ordered.any passes = true
    · have own := effective passing left
      rw [if_pos passing, if_neg (fun open_ => (opens.mp open_).elim (known own) left), if_pos own]
    · rw [if_neg passing, if_neg fun own => passing (passed own), if_neg]
      exact fun open_ => (opens.mp open_).elim
        (fun own => left ((unpassed (by simpa using passing)).mp own)) left

theorem decide_guard_standing (ordered : List GuardCandidate) :
    guardStanding (decideGuard anchor configuration ordered) =
      standingAmong (guardUndecided configuration) (guardPasses anchor configuration) ordered := by
  apply decided_standing _ _ ordered (decideGuard anchor configuration ordered).unresolvedFacts _
    ((decideGuard anchor configuration ordered).status = .unknown)
  · simp
  · exact unresolved_any _ _ (guard_unresolved_open configuration) ordered
  · intro effective
    simp [effective]
  · exact fun passing _ => if_pos passing
  · simpa [guardPasses] using decide_guard_effective anchor configuration ordered
  · simpa [guardPasses] using decide_guard_unpassed anchor configuration ordered

theorem decide_bound_standing (ordered : List BoundCandidate) :
    boundStanding (decideBound entry anchor configuration ordered) =
      standingAmong (boundUndecided configuration) (boundPasses entry anchor configuration)
        ordered := by
  apply decided_standing _ _ ordered
    (decideBound entry anchor configuration ordered).unresolvedFacts _
    ((decideBound entry anchor configuration ordered).status = .unknown)
  · simp
  · exact unresolved_any _ _ (bound_unresolved_open configuration) ordered
  · intro effective
    simp [effective]
  · exact fun passing _ => if_pos passing
  · simpa [boundPasses] using decide_bound_effective entry anchor configuration ordered
  · simpa [boundPasses] using decide_bound_unpassed entry anchor configuration ordered

theorem decide_release_settled (ordered : List ReleaseCandidate)
    (settled : ∀ candidate ∈ ordered, releaseUndecided candidate = false) :
    (decideRelease anchor ordered).classification ≠ .potentialAsync ∧
      (decideRelease anchor ordered).classification ≠ .unknown := by
  have open_ := any_flatMap_iff ordered (releaseReasons anchor) unresolvedReleaseReasons.contains
    releaseUndecided (release_unresolved_reason anchor)
  have closed : ∀ reason ∈ unresolvedReleaseReasons,
      (ordered.flatMap (releaseReasons anchor)).contains reason = false := by
    intro reason listed
    by_contra found
    have member : reason ∈ ordered.flatMap (releaseReasons anchor) := by simpa using found
    have any : (ordered.flatMap (releaseReasons anchor)).any unresolvedReleaseReasons.contains =
        true := List.any_eq_true.mpr ⟨reason, member, List.contains_iff_mem.mpr listed⟩
    rw [open_, List.any_eq_true] at any
    obtain ⟨candidate, present, leaves⟩ := any
    rw [settled candidate present] at leaves
    cases leaves
  have async := closed "RELEASE_POTENTIAL_ASYNC" (by decide)
  have transfer := closed "RELEASE_PAYLOAD_TRANSFER_ONLY" (by decide)
  have coverage := closed "RELEASE_COVERAGE_UNKNOWN" (by decide)
  have held := classification_settled anchor ordered .notEffective settled (by simp)
  simp only [decideRelease, unreleasedClassification, async, transfer, coverage, Bool.or_self,
    Bool.false_eq_true, if_false]
  split
  · simp
  · split
    · simp
    · split
      · simp
      · exact held

theorem decide_release_standing (ordered : List ReleaseCandidate) :
    releaseStanding (decideRelease anchor ordered) =
      standingAmong releaseUndecided (releasePasses anchor) ordered := by
  have classified := decide_release_settled anchor ordered
  apply decided_standing _ _ ordered (decideRelease anchor ordered).unresolvedFacts _
    ((decideRelease anchor ordered).classification = .potentialAsync ∨
      (decideRelease anchor ordered).classification = .unknown ∨
      (decideRelease anchor ordered).status = .unknown)
  · simp only [Bool.or_eq_true, decide_eq_true_eq]
    tauto
  · exact unresolved_any _ _ release_unresolved_open ordered
  · intro effective
    have settled := classified (decide_release_effective _ _ effective).2
    simp [settled, effective]
  · intro passing closed
    have unresolved : (ordered.flatMap (releaseReasons anchor)).any
        unresolvedReleaseReasons.contains = false := by
      rw [any_flatMap_iff ordered (releaseReasons anchor) unresolvedReleaseReasons.contains
        releaseUndecided (release_unresolved_reason anchor)]
      simpa using closed
    exact if_pos (by rw [unresolved, Bool.not_false, Bool.and_true]; exact passing)
  · intro effective
    simpa [releasePasses] using (decide_release_effective _ _ effective).1
  · intro failing
    have unpassed := decide_release_unpassed anchor ordered (by simpa [releasePasses] using failing)
    rw [unpassed]
    by_cases left : ∃ candidate ∈ ordered, releaseUndecided candidate = true
    · simp [left]
    · have settled := classified (by simpa using left)
      simp [left, settled]

section

variable (growth : VerifiedGrowthResult) (flow : VerifiedFlow) (coverageStatus : String)
  (context : PathContext entry growth flow anchor) (known : coverageStatus ∈ coverageStatuses)

include context known in
theorem evaluate_guard_standing (guards : List GuardCandidate) (decision : GuardDecision)
    (decided : evaluateGuard entry growth flow guards configuration coverageStatus = .ok decision) :
    guardStanding decision = standingOf (guardUndecided configuration)
      (guardPasses anchor configuration) guards (coverageStatus = "complete") := by
  obtain ⟨same, _⟩ := (evaluate_guard_ok entry growth flow anchor configuration coverageStatus guards
    context known decision).mp decided
  rw [← same]
  cases guards with
  | nil => by_cases complete : coverageStatus = "complete" <;> simp [complete, guardStanding, standingOf]
  | cons guard guards =>
    rw [if_neg (List.cons_ne_nil _ _), decide_guard_standing]
    exact standing_among_mem _ _ _ _ (mem_sorted _ _)

include context known in
theorem evaluate_bound_standing (bounds : List BoundCandidate) (decision : BoundDecision)
    (decided : evaluateBound entry growth flow bounds configuration coverageStatus = .ok decision) :
    boundStanding decision = standingOf (boundUndecided configuration)
      (boundPasses entry anchor configuration) bounds (coverageStatus = "complete") := by
  obtain ⟨same, _⟩ := (evaluate_bound_ok entry growth flow anchor configuration coverageStatus bounds
    context known decision).mp decided
  rw [← same]
  cases bounds with
  | nil => by_cases complete : coverageStatus = "complete" <;> simp [complete, boundStanding, standingOf]
  | cons bound bounds =>
    rw [if_neg (List.cons_ne_nil _ _), decide_bound_standing]
    exact standing_among_mem _ _ _ _ (mem_sorted _ _)

include context known in
theorem evaluate_release_standing (releases : List ReleaseCandidate) (decision : ReleaseDecision)
    (decided : evaluateSynchronousRelease entry growth flow releases coverageStatus = .ok decision) :
    releaseStanding decision = standingOf releaseUndecided (releasePasses anchor) releases
      (coverageStatus = "complete") := by
  have same := (evaluate_release_ok entry growth flow anchor coverageStatus releases context known
    decision).mp decided
  rw [← same]
  cases releases with
  | nil =>
    by_cases complete : coverageStatus = "complete" <;>
      simp [complete, releaseStanding, standingOf]
  | cons release releases =>
    rw [if_neg (List.cons_ne_nil _ _), decide_release_standing]
    exact standing_among_mem _ _ _ _ (mem_sorted _ _)

end

end

/-- The status of an assertion that its two families decide, the first one first. -/
def assertionStatus (first second : Standing) : AssertionStatus :=
  match first, second with
  | .undecided, _ => .unknown
  | .effective, _ => .refuted
  | .ineffective, .undecided => .unknown
  | .ineffective, .effective => .refuted
  | .ineffective, .ineffective => .matched

section

variable (growth : VerifiedGrowthResult) (flow : VerifiedFlow) (external : ExternalDecisions)

/-- What the rules before the families answer, the same whatever the decisions. -/
structure EarlyRules (early : Option AssertionStatus) : Prop where
  silent : ∀ status, early = some status → status = .unknown ∨ status = .notApplicable

theorem early_rules (rules : List (Bool × AssertionStatus))
    (silent : ∀ rule ∈ rules, rule.2 = .unknown ∨ rule.2 = .notApplicable) :
    EarlyRules ((rules.find? Prod.fst).map Prod.snd) := by
  constructor
  intro status found
  obtain ⟨rule, first, rfl⟩ := Option.map_eq_some_iff.mp found
  exact silent rule (List.mem_of_find?_eq_some first)

theorem assertion_1_early : ∃ early, EarlyRules early ∧ ∀ guard bound,
    (assertion1Finding growth flow guard bound external.amplification
      external.reachability).status =
        early.getD (assertionStatus (guardStanding guard) (boundStanding bound)) := by
  let rules := (((assertion1Rules growth flow ⟨.unknown, [], [], [], [], []⟩
    ⟨.unknown, [], [], [], [], []⟩ external.amplification external.reachability).take 7).map
      fun rule => (rule.1, rule.2.status))
  refine ⟨(rules.find? Prod.fst).map Prod.snd, early_rules rules (by simp [rules, assertion1Rules]), ?_⟩
  intro guard bound
  rw [← firstRule_found, assertion1Finding, firstRule_view Finding.status]
  have split : (assertion1Rules growth flow guard bound external.amplification
      external.reachability).map (fun rule => (rule.1, rule.2.status)) = rules ++
        [(guard.status = .unknown || guard.unresolvedFacts ≠ [], .unknown),
          (guard.status = .effective, .refuted),
          (bound.status = .unknown || bound.unresolvedFacts ≠ [], .unknown),
          (bound.status = .effective, .refuted)] := rfl
  rw [split, firstRule_append]
  apply congrArg
  simp only [firstRule, guardStanding, boundStanding]
  split_ifs <;> simp_all [assertionStatus]

theorem assertion_2_early : ∃ early, EarlyRules early ∧ ∀ bound release,
    (assertion2Finding growth flow bound release external.reachability
      external.repeatability).status =
        early.getD (assertionStatus (boundStanding bound) (releaseStanding release)) := by
  let rules := (((assertion2Rules growth flow ⟨.unknown, [], [], [], [], []⟩
    ⟨.unknown, .unknown, [], [], [], [], []⟩ external.reachability external.repeatability).take 10).map
      fun rule => (rule.1, rule.2.status))
  refine ⟨(rules.find? Prod.fst).map Prod.snd, early_rules rules (by simp [rules, assertion2Rules]), ?_⟩
  intro bound release
  rw [← firstRule_found, assertion2Finding, firstRule_view Finding.status]
  have split : (assertion2Rules growth flow bound release external.reachability
      external.repeatability).map (fun rule => (rule.1, rule.2.status)) = rules ++
        [(bound.status = .unknown || bound.unresolvedFacts ≠ [], .unknown),
          (bound.status = .effective, .refuted),
          (release.classification = .potentialAsync, .unknown),
          (release.status = .unknown || release.unresolvedFacts ≠ [] ||
            release.classification = .unknown, .unknown),
          (release.status = .effective, .refuted)] := rfl
  rw [split, firstRule_append]
  apply congrArg
  simp only [firstRule, boundStanding, releaseStanding]
  split_ifs <;> simp_all [assertionStatus]

end

theorem assertion_matched (first second : Standing) :
    assertionStatus first second = .matched ↔ first = .ineffective ∧ second = .ineffective := by
  cases first <;> cases second <;> simp [assertionStatus]

/-- An assertion over families of which the second is ineffective is open with the first one. -/
theorem assertion_known_first (first : Standing) :
    assertionStatus first .ineffective ≠ .unknown ↔ first ≠ .undecided := by
  cases first <;> simp [assertionStatus]

theorem assertion_known_second (second : Standing) :
    assertionStatus .ineffective second ≠ .unknown ↔ second ≠ .undecided := by
  cases second <;> simp [assertionStatus]

section

variable {Path : Type} (paths : List Path) (early1 early2 : Path → Option AssertionStatus)

def firstStatus (standing : Family → Standing) (path : Path) : AssertionStatus :=
  (early1 path).getD (assertionStatus (standing .guard) (standing .bound))

def secondStatus (standing : Family → Standing) (path : Path) : AssertionStatus :=
  (early2 path).getD (assertionStatus (standing .bound) (standing .release))

/-- No assertion about the paths is open, one matches, and each that applies is covered. -/
structure Vulnerable (standing : Family → Standing) (covered : Path → Family → Prop) : Prop where
  known : ∀ path ∈ paths, firstStatus early1 standing path ≠ .unknown ∧
    secondStatus early2 standing path ≠ .unknown
  matched : ∃ path ∈ paths, firstStatus early1 standing path = .matched ∨
    secondStatus early2 standing path = .matched
  firstCovered : ∀ path ∈ paths, firstStatus early1 standing path ≠ .notApplicable →
    covered path .guard ∧ covered path .bound
  secondCovered : ∀ path ∈ paths, secondStatus early2 standing path ≠ .notApplicable →
    covered path .bound ∧ covered path .release

variable (standing after : Family → Standing) (covered afterCovered : Path → Family → Prop)
  (silent1 : ∀ path, EarlyRules (early1 path)) (silent2 : ∀ path, EarlyRules (early2 path))
  (keeps : ∀ family, Keeps (standing family) (after family))
  (decided : ∀ path ∈ paths, ∀ family, standing family ≠ .undecided → covered path family)

include silent1 silent2 in
theorem vulnerable_bound (vulnerable : Vulnerable paths early1 early2 after afterCovered) :
    after .bound = .ineffective ∧ (after .guard = .ineffective ∨ after .release = .ineffective) ∧
      ∃ path ∈ paths, (early1 path = none ∧ after .guard = .ineffective) ∨
        (early2 path = none ∧ after .release = .ineffective) := by
  have unmatched : ∀ early, EarlyRules early → ∀ other, early.getD other = .matched →
      early = none ∧ other = .matched := by
    intro early rules other found
    cases early with
    | none => exact ⟨rfl, found⟩
    | some status =>
      rcases rules.silent status rfl with rfl | rfl <;> cases found
  obtain ⟨path, member, first | second⟩ := vulnerable.matched
  · obtain ⟨none_, matched⟩ := unmatched _ (silent1 path) _ first
    obtain ⟨guard, bound⟩ := (assertion_matched _ _).mp matched
    exact ⟨bound, Or.inl guard, path, member, Or.inl ⟨none_, guard⟩⟩
  · obtain ⟨none_, matched⟩ := unmatched _ (silent2 path) _ second
    obtain ⟨bound, release⟩ := (assertion_matched _ _).mp matched
    exact ⟨bound, Or.inr release, path, member, Or.inr ⟨none_, release⟩⟩

include silent1 silent2 keeps decided in
/-- Where the families keep their standing, a pair that is vulnerable afterwards was so before. -/
theorem vulnerable_before (vulnerable : Vulnerable paths early1 early2 after afterCovered) :
    Vulnerable paths early1 early2 standing covered := by
  obtain ⟨afterBound, _, found, foundMember, matches_⟩ :=
    vulnerable_bound paths early1 early2 after afterCovered silent1 silent2 vulnerable
  have bound := keeps_ineffective _ _ (keeps .bound) afterBound
  have known := vulnerable.known
  simp only [firstStatus, secondStatus, afterBound] at known
  have guardDecided : ∀ path ∈ paths, early1 path = none → standing .guard ≠ .undecided := by
    intro path member none_
    have open_ := (known path member).1
    rw [none_, Option.getD_none, assertion_known_first] at open_
    exact keeps_decided _ _ (keeps .guard) open_
  have releaseDecided : ∀ path ∈ paths, early2 path = none → standing .release ≠ .undecided := by
    intro path member none_
    have open_ := (known path member).2
    rw [none_, Option.getD_none, assertion_known_second] at open_
    exact keeps_decided _ _ (keeps .release) open_
  have boundCovered : ∀ path ∈ paths, covered path .bound := by
    intro path member
    apply decided path member
    rw [bound]
    simp
  have stays : ∀ path ∈ paths, firstStatus early1 standing path ≠ .unknown ∧
      secondStatus early2 standing path ≠ .unknown := by
    intro path member
    simp only [firstStatus, secondStatus, bound]
    constructor
    · cases early : early1 path with
      | none => exact (assertion_known_first _).mpr (guardDecided path member early)
      | some status =>
        have open_ := (known path member).1
        rwa [early] at open_
    · cases early : early2 path with
      | none => exact (assertion_known_second _).mpr (releaseDecided path member early)
      | some status =>
        have open_ := (known path member).2
        rwa [early] at open_
  refine ⟨stays, ⟨found, foundMember, ?_⟩, ?_, ?_⟩
  · rcases matches_ with ⟨none_, guard⟩ | ⟨none_, release⟩
    · apply Or.inl
      rw [firstStatus, none_, bound, keeps_ineffective _ _ (keeps .guard) guard]
      rfl
    · apply Or.inr
      rw [secondStatus, none_, bound, keeps_ineffective _ _ (keeps .release) release]
      rfl
  · intro path member applies
    refine ⟨?_, boundCovered path member⟩
    cases early : early1 path with
    | none => exact decided path member .guard (guardDecided path member early)
    | some status =>
      have open_ := (stays path member).1
      rw [firstStatus, early] at applies open_
      rcases (silent1 path).silent status early with rfl | rfl
      · exact absurd rfl open_
      · exact absurd rfl applies
  · intro path member applies
    refine ⟨boundCovered path member, ?_⟩
    cases early : early2 path with
    | none => exact decided path member .release (releaseDecided path member early)
    | some status =>
      have open_ := (stays path member).2
      rw [secondStatus, early] at applies open_
      rcases (silent2 path).silent status early with rfl | rfl
      · exact absurd rfl open_
      · exact absurd rfl applies

end

variable (growth : VerifiedGrowthResult) (flow : VerifiedFlow) (decisions : LifecycleDecisions)
  (external : ExternalDecisions)

def Finding.Settled (finding : Finding) : Prop :=
  finding.status = .unknown ∨ finding.unresolved = []

theorem recomputed_settled (evaluation : AssertionEvaluation)
    (recomputed : RecomputedFor growth decisions external flow evaluation) :
    evaluation.status = .unknown ∨ evaluation.unresolvedFacts.values = [] := by
  have settled : ∀ assertion finding evidence, Holds assertion finding evidence evaluation →
      finding.Settled →
      evaluation.status = .unknown ∨ evaluation.unresolvedFacts.values = [] := by
    intro assertion finding evidence holds either
    rcases either with open_ | none_
    · exact Or.inl (holds.status.trans open_)
    · have facts := holds.unresolvedFacts
      rw [none_] at facts
      exact Or.inr (TextSet.collect_values _ _ facts)
  rcases recomputed with first | second
  · obtain ⟨_, holds⟩ := (evaluate_assertion_1_ok _ _ _ _ _ _ _).mp first
    apply settled _ _ _ holds
    exact firstRule_common (assertion1Rules growth flow _ _ _ _) _ Finding.Settled
      (by simp [assertion1Rules, Finding.Settled]) (Or.inr rfl)
  · obtain ⟨_, holds⟩ := (evaluate_assertion_2_ok _ _ _ _ _ _ _).mp second
    apply settled _ _ _ holds
    exact firstRule_common (assertion2Rules growth flow _ _ _ _) _ Finding.Settled
      (by simp [assertion2Rules, Finding.Settled]) (Or.inr rfl)

theorem gated_vulnerable_iff (assertions : List AssertionEvaluation) (coverage : CandidateCoverage)
    (gate : VerdictProofGate) (settled : ∀ assertion ∈ assertions, assertion.status = .unknown ∨
      assertion.unresolvedFacts.values = []) :
    (gatedVerdict (derivedVerdict assertions coverage) (some gate)).verdict = .staticVulnerable ↔
      coverage.status = .complete ∧ (∀ assertion ∈ assertions, assertion.status ≠ .unknown) ∧
        (∃ assertion ∈ assertions, assertion.status = .matched) ∧ gate.Passes := by
  constructor
  · intro vulnerable
    obtain ⟨same, passes⟩ := gated_verdict_determinate (derivedVerdict assertions coverage)
      (some gate) (by rw [vulnerable]; simp)
    rw [same] at vulnerable
    obtain ⟨known, found⟩ := vulnerable_assertions assertions coverage vulnerable
    have facts := has_unknown_false assertions coverage known
    exact ⟨facts.2, facts.1, found, passes gate rfl⟩
  · intro grounds
    obtain ⟨complete, known, found, passes⟩ := grounds
    have unresolved : (unresolvedEvidence assertions).values = [] := by
      rw [List.eq_nil_iff_forall_not_mem]
      intro fact member
      rw [unresolvedEvidence, TextSet.mem_union] at member
      obtain ⟨part, listed, inPart⟩ := member
      obtain ⟨assertion, applies, rfl⟩ := List.mem_map.mp listed
      have present := (List.mem_filter.mp applies).1
      rcases settled assertion present with open_ | none_
      · exact known assertion present open_
      · rw [none_] at inPart
        cases inPart
    have silent : hasUnknown assertions coverage = false := by
      simp only [hasUnknown, Bool.or_eq_false_iff, List.any_eq_false, decide_eq_true_eq,
        decide_eq_false_iff_not, not_not]
      exact ⟨⟨unresolved, known⟩, coverage.relevant_gaps_nil_iff.mpr complete⟩
    have matches_ : hasMatch assertions = true := by
      obtain ⟨assertion, member, matched⟩ := found
      exact List.any_eq_true.mpr ⟨assertion, member, decide_eq_true matched⟩
    have open_ := gate.missing_nil_iff.mpr passes
    simp only [gatedVerdict, applyPositiveProofGate, open_, if_true, derivedVerdict, verdictName,
      silent, matches_, Bool.false_eq_true, if_false]

end DosWeb.Conclude
