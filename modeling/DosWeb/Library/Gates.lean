import Mathlib.Data.List.Basic

/-!
Sequences in which the first one decides: named checks, of which the first that fails gives
the outcome, and rules, of which the first that applies does.
-/

namespace DosWeb.Library.Gates

structure Gate (Failure : Type) where
  name : String
  failure : Option Failure

variable {Failure : Type}

/-- The names of the checks passed before the first failing one, and that one. -/
def run : List (Gate Failure) → List String × Option (String × Failure)
  | [] => ([], none)
  | gate :: gates =>
    match gate.failure with
    | some failure => ([], some (gate.name, failure))
    | none => (gate.name :: (run gates).1, (run gates).2)

variable (gates : List (Gate Failure))

theorem run_passes_iff : (run gates).2 = none ↔ ∀ gate ∈ gates, gate.failure = none := by
  induction gates with
  | nil => simp [run]
  | cons gate gates ih =>
    cases failed : gate.failure with
    | none => simp [run, failed, ih]
    | some failure => simp [run, failed]

theorem run_passed_names (passes : (run gates).2 = none) : (run gates).1 = gates.map Gate.name := by
  induction gates with
  | nil => rfl
  | cons gate gates ih =>
    cases failed : gate.failure with
    | none =>
      simp only [run, failed] at passes
      simp [run, failed, ih passes]
    | some failure => simp [run, failed] at passes

theorem run_failed_mem (name : String) (failure : Failure)
    (failed : (run gates).2 = some (name, failure)) :
    ∃ gate ∈ gates, gate.name = name ∧ gate.failure = some failure := by
  induction gates with
  | nil => cases failed
  | cons gate gates ih =>
    cases own : gate.failure with
    | none =>
      simp only [run, own] at failed
      rcases ih failed with ⟨found, member, facts⟩
      exact ⟨found, .tail _ member, facts⟩
    | some held =>
      simp only [run, own, Option.some.injEq, Prod.mk.injEq] at failed
      exact ⟨gate, .head _, failed.1, by rw [own, failed.2]⟩

/-- Lifting a condition that must hold to the failure raised where it does not. -/
def failUnless (condition : Bool) (failure : Failure) : Option Failure :=
  if condition then none else some failure

@[simp] theorem failUnless_passes (condition : Bool) (failure : Failure) :
    failUnless condition failure = none ↔ condition = true := by
  cases condition <;> simp [failUnless]

@[simp] theorem failUnless_fails (condition : Bool) (failure raised : Failure) :
    failUnless condition failure = some raised ↔ condition = false ∧ failure = raised := by
  cases condition <;> simp [failUnless]

variable {Outcome : Type}

/-- The outcome of the first rule whose condition holds, or the one given for no rule. -/
def firstRule : List (Bool × Outcome) → Outcome → Outcome
  | [], otherwise => otherwise
  | (applies, outcome) :: rules, otherwise =>
    if applies then outcome else firstRule rules otherwise

variable (rules : List (Bool × Outcome))

theorem firstRule_cases (otherwise : Outcome) :
    ((∀ rule ∈ rules, rule.1 = false) ∧ firstRule rules otherwise = otherwise) ∨
      ∃ rule ∈ rules, rule.1 = true ∧ firstRule rules otherwise = rule.2 := by
  induction rules with
  | nil => exact Or.inl ⟨nofun, rfl⟩
  | cons rule rules ih =>
    rcases rule with ⟨applies, outcome⟩
    cases applies with
    | true => exact Or.inr ⟨_, .head _, rfl, rfl⟩
    | false =>
      rcases ih with ⟨none_, same⟩ | ⟨found, member, applied, same⟩
      · refine Or.inl ⟨?_, same⟩
        rintro other (_ | ⟨_, member⟩)
        · rfl
        · exact none_ other member
      · exact Or.inr ⟨found, .tail _ member, applied, same⟩

theorem firstRule_view {View : Type} (view : Outcome → View) (rules : List (Bool × Outcome))
    (otherwise : Outcome) : view (firstRule rules otherwise) =
      firstRule (rules.map fun rule => (rule.1, view rule.2)) (view otherwise) := by
  induction rules with
  | nil => rfl
  | cons rule rules ih =>
    rw [List.map_cons, firstRule, firstRule, ← ih]
    split <;> rfl

theorem firstRule_append (rules more : List (Bool × Outcome)) (otherwise : Outcome) :
    firstRule (rules ++ more) otherwise = firstRule rules (firstRule more otherwise) := by
  induction rules with
  | nil => rfl
  | cons rule rules ih => rw [List.cons_append, firstRule, firstRule, ih]

theorem firstRule_found (otherwise : Outcome) :
    firstRule rules otherwise = ((rules.find? Prod.fst).map Prod.snd).getD otherwise := by
  induction rules with
  | nil => rfl
  | cons rule rules ih =>
    rcases rule with ⟨applies, outcome⟩
    cases applies with
    | true => rfl
    | false => exact ih

theorem firstRule_common (otherwise : Outcome)
    (common : Outcome → Prop) (given : ∀ rule ∈ rules, common rule.2) (last : common otherwise) :
    common (firstRule rules otherwise) := by
  rcases firstRule_cases rules otherwise with ⟨_, same⟩ | ⟨rule, member, _, same⟩
  · rw [same]
    exact last
  · rw [same]
    exact given rule member

theorem firstRule_otherwise (otherwise : Outcome)
    (wanted : Outcome → Prop) (reached : wanted (firstRule rules otherwise))
    (excluded : ∀ rule ∈ rules, ¬ wanted rule.2) : ∀ rule ∈ rules, rule.1 = false := by
  rcases firstRule_cases rules otherwise with ⟨unapplied, _⟩ | ⟨rule, member, _, same⟩
  · exact unapplied
  · rw [same] at reached
    exact absurd reached (excluded rule member)

end DosWeb.Library.Gates
