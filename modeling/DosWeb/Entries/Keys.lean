import DosWeb.Entries.Models

/-!
What entries are compared by: their registration, the site of their registration and their
meaning without the registration.
-/

namespace DosWeb.Entries

def registrationIdentity (entry : EntryFact) : RegistrationFact × String :=
  (entry.registration, entry.registrationPatternId)

/-- The order of registrations, and of identifiers where these are the same. -/
def registrationOrder (entry : EntryFact) : String ×ₗ String ×ₗ String ×ₗ Nat ×ₗ String ×ₗ String :=
  toLex (entry.registration.kind.text, toLex (entry.registration.callable.1,
    toLex (entry.registration.file.1, toLex (entry.registration.startLine.1,
      toLex (entry.registrationPatternId, entry.entryId)))))

/-- What binds one installed handler; the route is left out. -/
structure RegistrationSite where
  framework : Framework
  protocol : Protocol
  handler : HandlerFact
  registration : RegistrationFact
  authContext : AuthContext
  attackerInputs : List AttackerInputFact
  materializationPhase : MaterializationPhase
  deriving DecidableEq

def registrationSiteIdentity (entry : EntryFact) : RegistrationSite :=
  ⟨entry.framework, entry.protocol, entry.handler, entry.registration, entry.authContext,
    entry.attackerInputs, entry.materializationPhase⟩

structure SemanticKey where
  framework : Framework
  protocol : Protocol
  handler : HandlerFact
  routeOrEvent : String
  authContext : AuthContext
  attackerInputs : List AttackerInputFact
  materializationPhase : MaterializationPhase
  registrationPatternId : String
  deriving DecidableEq

def semanticKey (entry : EntryFact) : SemanticKey :=
  ⟨entry.framework, entry.protocol, entry.handler, entry.routeOrEvent, entry.authContext,
    entry.attackerInputs, entry.materializationPhase, entry.registrationPatternId⟩

def readsOneOf (names : List String) (entry : EntryFact) : Bool :=
  entry.attackerInputs.any fun input => decide (input.name.1 ∈ names)

/-- The entries that read an input of one of the names, or all if none does. -/
def narrowedBy (names : List String) (entries : List EntryFact) : List EntryFact :=
  if names = [] ∨ entries.filter (readsOneOf names) = [] then entries
  else entries.filter (readsOneOf names)

variable (names : List String)

theorem narrowed_mem (entries : List EntryFact) (entry : EntryFact)
    (inside : entry ∈ narrowedBy names entries) : entry ∈ entries := by
  unfold narrowedBy at inside
  split at inside
  · exact inside
  · exact List.mem_of_mem_filter inside

theorem narrowed_filled (entries : List EntryFact) (filled : entries ≠ []) :
    narrowedBy names entries ≠ [] := by
  unfold narrowedBy
  split
  · exact filled
  · rename_i kept
    rw [not_or] at kept
    exact kept.2

theorem narrowed_congr (left right : List EntryFact)
    (same : ∀ entry, entry ∈ left ↔ entry ∈ right) (entry : EntryFact) :
    entry ∈ narrowedBy names left ↔ entry ∈ narrowedBy names right := by
  have empty : left.filter (readsOneOf names) = [] ↔ right.filter (readsOneOf names) = [] := by
    rw [List.filter_eq_nil_iff, List.filter_eq_nil_iff]
    simp only [same]
  unfold narrowedBy
  by_cases plain : names = [] ∨ left.filter (readsOneOf names) = []
  · rw [if_pos plain, if_pos (plain.imp_right empty.mp)]
    exact same entry
  · rw [if_neg plain, if_neg fun other => plain (other.imp_right empty.mpr), List.mem_filter,
      List.mem_filter, same]

theorem narrowed_perm (left right : List EntryFact)
    (permuted : left.Perm right) : (narrowedBy names left).Perm (narrowedBy names right) := by
  have kept := permuted.filter (readsOneOf names)
  have empty : left.filter (readsOneOf names) = [] ↔ right.filter (readsOneOf names) = [] := by
    rw [← List.length_eq_zero_iff, ← List.length_eq_zero_iff, kept.length_eq]
  unfold narrowedBy
  by_cases plain : names = [] ∨ left.filter (readsOneOf names) = []
  · rw [if_pos plain, if_pos (plain.imp_right empty.mp)]
    exact permuted
  · rw [if_neg plain, if_neg fun other => plain (other.imp_right empty.mpr)]
    exact kept

end DosWeb.Entries
