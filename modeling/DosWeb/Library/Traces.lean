import Mathlib.Data.List.Basic

/-!
Traces of events each of which was allowed by what came before it.
-/

namespace DosWeb.Library.Traces

variable {E : Type} (allowed : List E → E → Prop)

def Justified (trace : List E) : Prop :=
  ∀ before event after, trace = before ++ event :: after → allowed before event

theorem justified_nil : Justified allowed [] := by
  intro before event after shape
  cases before <;> cases shape

theorem justified_snoc (trace : List E) (event : E) (justified : Justified allowed trace)
    (own : allowed trace event) : Justified allowed (trace ++ [event]) := by
  intro before other after shape
  rcases List.eq_nil_or_concat after with rfl | ⟨rest, last, rfl⟩
  · obtain ⟨rfl, same⟩ := List.append_inj' shape rfl
    obtain ⟨rfl, -⟩ := List.cons.inj same
    exact own
  · rw [List.concat_eq_append, ← List.cons_append, ← List.append_assoc] at shape
    exact justified before other rest (List.append_inj' shape rfl).1

/-- Events that whatever came before them allows are justified behind a justified trace. -/
theorem justified_append (trace events : List E) (justified : Justified allowed trace)
    (each : ∀ event ∈ events, ∀ more, allowed (trace ++ more) event) :
    Justified allowed (trace ++ events) := by
  induction events generalizing trace with
  | nil =>
    rw [List.append_nil]
    exact justified
  | cons event events ih =>
    have first := each event (.head _) []
    rw [List.append_nil] at first
    rw [List.append_cons]
    apply ih (trace ++ [event]) (justified_snoc allowed trace event justified first)
    intro other member more
    rw [List.append_assoc]
    exact each other (.tail _ member) _

end DosWeb.Library.Traces
