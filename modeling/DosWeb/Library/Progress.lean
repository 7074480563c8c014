import Mathlib.Tactic.Ring

/-!
Runs of a relation whose steps are busy or idle: where busy steps lower a measure and idle steps
raise it by at most a cost, the idle steps bound the busy ones.
-/

namespace DosWeb.Library.Progress

variable {σ : Type}

inductive Paced (busy idle : σ → σ → Prop) : σ → Nat → Nat → σ → Prop where
  | refl (state : σ) : Paced busy idle state 0 0 state
  | busy {first state next : σ} {steps waits : Nat}
      (run : Paced busy idle first steps waits state) (step : busy state next) :
      Paced busy idle first (steps + 1) waits next
  | idle {first state next : σ} {steps waits : Nat}
      (run : Paced busy idle first steps waits state) (step : idle state next) :
      Paced busy idle first steps (waits + 1) next

variable {busy idle : σ → σ → Prop}

theorem paced_invariant (invariant : σ → Prop)
    (keeps : ∀ state next, invariant state → busy state next ∨ idle state next → invariant next)
    {first last : σ} {steps waits : Nat} (run : Paced busy idle first steps waits last)
    (start : invariant first) : invariant last := by
  induction run with
  | refl => exact start
  | busy _ step ih => exact keeps _ _ ih (.inl step)
  | idle _ step ih => exact keeps _ _ ih (.inr step)

theorem paced_bounded (invariant : σ → Prop) (measure : σ → Nat) (cost : Nat)
    (keeps : ∀ state next, invariant state → busy state next ∨ idle state next → invariant next)
    (lowers : ∀ state next, invariant state → busy state next → measure next < measure state)
    (raises : ∀ state next, invariant state → idle state next → measure next ≤ measure state + cost)
    {first last : σ} {steps waits : Nat} (run : Paced busy idle first steps waits last)
    (start : invariant first) : steps + measure last ≤ measure first + cost * waits := by
  induction run with
  | refl => omega
  | @busy state next steps waits before step ih =>
    have lower := lowers state next (paced_invariant invariant keeps before start) step
    omega
  | @idle state next steps waits before step ih =>
    have raise_ := raises state next (paced_invariant invariant keeps before start) step
    calc
      steps + measure next ≤ steps + (measure state + cost) := Nat.add_le_add_left raise_ _
      _ = steps + measure state + cost := by ring
      _ ≤ measure first + cost * waits + cost := Nat.add_le_add_right ih _
      _ = measure first + cost * (waits + 1) := by ring

/-- Where every state short of the end has a busy step, a run without idle steps reaches the end. -/
theorem reaches_end (invariant : σ → Prop) (measure : σ → Nat) (goal : σ → Prop)
    (keeps : ∀ state next, invariant state → busy state next → invariant next)
    (lowers : ∀ state next, invariant state → ¬ goal state → busy state next →
      measure next < measure state)
    (progress : ∀ state, invariant state → ¬ goal state → ∃ next, busy state next)
    (first : σ) (start : invariant first) :
    ∃ last, Relation.ReflTransGen busy first last ∧ goal last := by
  induction rank : measure first using Nat.strong_induction_on generalizing first with
  | _ rank ih =>
    by_cases there : goal first
    · exact ⟨first, .refl, there⟩
    · obtain ⟨next, step⟩ := progress first start there
      have lower := lowers first next start there step
      obtain ⟨last, rest, finished⟩ := ih (measure next) (by omega) next
        (keeps first next start step) rfl
      exact ⟨last, .head step rest, finished⟩

end DosWeb.Library.Progress
