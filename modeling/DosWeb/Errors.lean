import DosWeb.Library.Fallible
import DosWeb.Library.JsonText

namespace DosWeb

open Library.JsonValue

/-- JSON values without floating-point numbers: identities and the details of errors. -/
abbrev PlainJson := Json Empty

structure AnalyzerError where
  code : String
  message : String
  details : Members Empty := []
  deriving DecidableEq

/-- What a function of the analyzer raises: its own error, or a `ValueError` or an `OSError` of
the language. -/
inductive Raised where
  | analyzer (error : AnalyzerError)
  | valueError (message : String)
  | osError (message : String)
  deriving DecidableEq

abbrev Checked := Except Raised

/-- The interpreter converts integers of at most this many digits to and from text. -/
def maxIntegerDigits : Nat := 4300

def require (condition : Bool) (raised : Raised) : Checked Unit :=
  if condition then .ok () else .error raised

@[simp] theorem require_ok (condition : Bool) (raised : Raised) (nothing : Unit) :
    require condition raised = .ok nothing ↔ condition = true := by
  unfold require
  split <;> simp_all

theorem pure_ok {α : Type} (value kept : α) :
    (pure value : Checked α) = .ok kept ↔ value = kept := by
  simp [pure, Except.pure]

theorem mapM_ok {α β : Type} {step : α → Checked β} {items : List α} {results : List β} :
    items.mapM step = .ok results ↔
      List.Forall₂ (fun item result => step item = .ok result) items results := by
  induction items generalizing results with
  | nil =>
    constructor
    · intro run
      cases run
      exact .nil
    · intro all
      cases all
      rfl
  | cons item items ih =>
    rw [List.mapM_cons]
    simp only [bind_ok, ih]
    constructor
    · intro run
      obtain ⟨result, own, rest, all, same⟩ := run
      cases same
      exact .cons own all
    · intro all
      cases all with
      | cons own rest => exact ⟨_, own, _, rest, rfl⟩

theorem mapM_total {α β : Type} (step : α → Checked β) (items : List α)
    (each : ∀ item ∈ items, ∃ result, step item = .ok result) :
    ∃ results, items.mapM step = .ok results := by
  induction items with
  | nil => exact ⟨[], rfl⟩
  | cons item items ih =>
    obtain ⟨result, own⟩ := each item (.head _)
    obtain ⟨results, rest⟩ := ih fun other member => each other (.tail _ member)
    exact ⟨result :: results, mapM_ok.mpr (.cons own (mapM_ok.mp rest))⟩

theorem related_left {α β : Type} {relation : α → β → Prop} {left : List α} {right : List β}
    (all : List.Forall₂ relation left right) (one : α) (member : one ∈ left) :
    ∃ other ∈ right, relation one other := by
  induction all with
  | nil => cases member
  | cons own _ ih =>
    rcases List.mem_cons.mp member with same | later
    · exact ⟨_, .head _, same ▸ own⟩
    · obtain ⟨other, inside, related⟩ := ih later
      exact ⟨other, .tail _ inside, related⟩

/-- The value of a computation that is known to return. -/
def returned {α : Type} (computation : Checked α) (returns : ∃ value, computation = .ok value) : α :=
  match found : computation with
  | .ok value => value
  | .error _ => absurd returns (by rintro ⟨value, same⟩; cases same)

theorem returned_ok {α : Type} (computation : Checked α)
    (returns : ∃ value, computation = .ok value) :
    computation = .ok (returned computation returns) := by
  cases computation with
  | ok value => rfl
  | error raised =>
    rcases returns with ⟨value, same⟩
    cases same

end DosWeb
