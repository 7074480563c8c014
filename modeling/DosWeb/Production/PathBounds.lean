import DosWeb.Library.Grouping
import DosWeb.Production.Lifecycle

/-!
The bounds of a path: deciding the candidates one by one and joining the decisions is deciding
them together.
-/

namespace DosWeb.Production

open Library.OrderedSet
open Entries (EntryFact)
open Flows (VerifiedFlow)
open Growth (GrowthCandidate VerifiedGrowthResult)
open Lifecycle

section

variable (entry : EntryFact) (growth : VerifiedGrowthResult) (flow : VerifiedFlow)
  (configuration : ModeledConfiguration)

theorem coverage_known (coverage : Coverage) : coverageStatuses.contains coverage.text = true := by
  cases coverage <;> rfl

theorem evaluate_bound_decides (candidate : GrowthCandidate) (coverageStatus : String)
    (candidates : List BoundCandidate) (context : validateContext entry growth flow = .ok candidate)
    (known : coverageStatuses.contains coverageStatus = true) (filled : candidates ≠ [])
    (ordered : candidates.Pairwise fun left right => left.boundId ≤ right.boundId) :
    evaluateBound entry growth flow candidates configuration coverageStatus =
      if candidates.all fun bound => limitPrintable configuration bound.configurationKey then
        .ok (decideBound entry candidate configuration candidates)
      else .error digitLimitExceeded := by
  unfold evaluateBound
  rw [context, List.Pairwise.insertionSort_eq ordered, known]
  change (if candidates = [] then _ else _) = _
  rw [if_neg filled]
  unfold require
  cases candidates.all fun bound => limitPrintable configuration bound.configurationKey <;> rfl

theorem framework_limit_eq (candidate : BoundCandidate)
    (modeled : (limitDomain candidate).isSome = true) :
    normalizeFrameworkLimit entry growth flow candidate configuration =
      evaluateBound entry growth flow [candidate] configuration "complete" := by
  obtain ⟨domain, found⟩ := Option.isSome_iff_exists.mp modeled
  unfold normalizeFrameworkLimit
  cases context : validateContext entry growth flow with
  | error raised =>
    unfold evaluateBound
    rw [context]
    rfl
  | ok anchor =>
    rw [frameworkLimitReasonCodes, found]
    rfl

theorem individual_bounds_cons (candidate : BoundCandidate) (candidates : List BoundCandidate) :
    individualBounds entry growth flow configuration (candidate :: candidates) = do
      let decision ← evaluateBound entry growth flow [candidate] configuration "complete"
      let decisions ← individualBounds entry growth flow configuration candidates
      return decision :: decisions := by
  rw [individualBounds]
  split
  · rename_i modeled
    rw [framework_limit_eq entry growth flow configuration candidate modeled]
  · rfl

theorem individual_bounds_eq (anchor : GrowthCandidate) (candidates : List BoundCandidate)
    (context : validateContext entry growth flow = .ok anchor) :
    individualBounds entry growth flow configuration candidates =
      if candidates.all fun bound => limitPrintable configuration bound.configurationKey then
        .ok (candidates.map fun bound => decideBound entry anchor configuration [bound])
      else .error digitLimitExceeded := by
  induction candidates with
  | nil => rfl
  | cons candidate candidates ih =>
    have alone := evaluate_bound_decides entry growth flow configuration anchor "complete"
      [candidate] context rfl (List.cons_ne_nil _ _) (List.pairwise_singleton _ _)
    rw [List.all_cons, List.all_nil, Bool.and_true] at alone
    rw [individual_bounds_cons, alone, ih, List.all_cons, List.map_cons]
    generalize limitPrintable configuration candidate.configurationKey = own
    generalize (candidates.all fun bound =>
      limitPrintable configuration bound.configurationKey) = others
    cases own <;> cases others <;> rfl

theorem context_refused (raised : Raised) (coverageStatus : String)
    (candidates : List BoundCandidate)
    (refused : validateContext entry growth flow = .error raised) :
    evaluateBound entry growth flow candidates configuration coverageStatus = .error raised := by
  unfold evaluateBound
  rw [refused]
  rfl

end

section

variable (entry : EntryFact) (anchor : GrowthCandidate) (configuration : ModeledConfiguration)

theorem alone_effective (candidate : BoundCandidate) :
    (decideBound entry anchor configuration [candidate]).status = .effective ↔
      boundReasons entry anchor configuration candidate = [] := by
  have ineffective (reasons : List String) : (ineffectiveBound reasons).1 ≠ .effective := by
    unfold ineffectiveBound
    split
    · nofun
    · split
      · nofun
      · split <;> nofun
  by_cases none_ : boundReasons entry anchor configuration candidate = []
  · exact iff_of_true (by simp [decideBound, none_]) none_
  · exact iff_of_false (by simpa [decideBound, none_] using ineffective _) none_

theorem joined_effective (candidates : List BoundCandidate) :
    ((candidates.map fun bound => decideBound entry anchor configuration [bound]).any
      fun decision => decision.status = .effective) =
      candidates.any fun bound => boundReasons entry anchor configuration bound = [] := by
  rw [List.any_map]
  apply congrArg (candidates.any ·)
  funext bound
  exact decide_eq_decide.mpr (alone_effective entry anchor configuration bound)

theorem sorted_parts {α : Type} (part : α → List String) (items : List α) :
    sortedSet (items.flatMap fun item => sortedSet (part item)) =
      sortedSet (items.flatMap part) := by
  apply sortedSet_congr
  intro text
  simp only [List.mem_flatMap, mem_sortedSet]

theorem joined_decision (candidates : List BoundCandidate) (effective : (candidates.any fun bound =>
      boundReasons entry anchor configuration bound = []) = true) :
    decideBound entry anchor configuration candidates = {
      status := .effective
      reasonCodes := []
      checks := (candidates.map fun bound =>
        decideBound entry anchor configuration [bound]).flatMap BoundDecision.checks
      evidenceIds := sortedSet ((candidates.map fun bound =>
        decideBound entry anchor configuration [bound]).flatMap BoundDecision.evidenceIds)
      unresolvedFacts := sortedSet ((candidates.map fun bound =>
        decideBound entry anchor configuration [bound]).flatMap BoundDecision.unresolvedFacts)
      candidateIds := candidates.map BoundCandidate.boundId } := by
  simp only [decideBound, effective, if_true, List.flatMap_map, List.flatMap_singleton,
    sorted_parts]

end

/-- Splitting the candidates of a path and joining their decisions changes nothing. -/
theorem path_bounds_agree (entry : EntryFact) (growth : VerifiedGrowthResult) (flow : VerifiedFlow)
    (candidates : List BoundCandidate) (configuration : ModeledConfiguration)
    (coverage : Coverage) :
    evaluatePathBounds entry growth flow configuration candidates coverage.text =
      evaluateBound entry growth flow candidates configuration coverage.text := by
  have known := coverage_known coverage
  have ordered := Library.Grouping.sorted_by_key BoundCandidate.boundId candidates
  have again : evaluateBound entry growth flow
      (candidates.insertionSort fun left right => left.boundId ≤ right.boundId) configuration
      coverage.text = evaluateBound entry growth flow candidates configuration coverage.text := by
    rw [evaluateBound, evaluateBound, List.Pairwise.insertionSort_eq ordered]
  rw [← again]
  unfold evaluatePathBounds
  generalize (candidates.insertionSort fun left right => left.boundId ≤ right.boundId) = sorted
    at ordered
  by_cases empty : sorted = []
  · rw [empty]
    rfl
  · dsimp only
    rw [if_neg empty]
    cases context : validateContext entry growth flow with
    | error raised =>
      rw [context_refused entry growth flow configuration raised coverage.text sorted context]
      cases sorted with
      | nil => exact absurd rfl empty
      | cons candidate rest =>
        rw [individual_bounds_cons,
          context_refused entry growth flow configuration raised "complete" [candidate] context]
        rfl
    | ok anchor =>
      have whole := evaluate_bound_decides entry growth flow configuration anchor coverage.text
        sorted context known empty ordered
      rw [individual_bounds_eq entry growth flow configuration anchor sorted context, whole]
      split
      · change (if _ then _ else _) = _
        rw [joined_effective]
        split
        · rename_i effective
          rw [joined_decision entry anchor configuration sorted effective]
          rfl
        · rfl
      · rfl

end DosWeb.Production
