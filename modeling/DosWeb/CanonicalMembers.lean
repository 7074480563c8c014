import DosWeb.CanonicalJson
import DosWeb.Library.JsonRecord

/-!
What the canonical text of an object without floating-point numbers determines, member by member.
-/

namespace DosWeb.Identifiers

open Library Library.JsonValue Library.JsonText Library.JsonRoundTrip Library.JsonRecord

/-- The identifiers of two identities differ where their canonical texts do. -/
def IdentifierFree (lead : String) (left right : Members Empty) : Prop :=
  stableIdentifier lead left = stableIdentifier lead right →
    canonicalJson (.obj left : PlainJson) = canonicalJson (.obj right : PlainJson)

theorem printable_mono (few many : Nat) (within : few ≤ many) (value : PlainJson)
    (printed : printable few value = true) : printable many value = true := by
  induction value using Json.induct with
  | int value =>
    simp only [printable, decide_eq_true_eq] at printed ⊢
    omega
  | float value => exact value.elim
  | arr items ih =>
    rw [printable, printableItems_iff] at printed ⊢
    exact fun item member => ih item member (printed item member)
  | obj members ih =>
    rw [printable, printableMembers_iff] at printed ⊢
    exact fun member inside => ih member inside (printed member inside)
  | _ => rfl

theorem common_bound {α : Type} (items : List α) (bound : α → Nat → Prop)
    (mono : ∀ item few many, few ≤ many → bound item few → bound item many)
    (each : ∀ item ∈ items, ∃ digits, bound item digits) :
    ∃ digits, ∀ item ∈ items, bound item digits := by
  induction items with
  | nil => exact ⟨0, nofun⟩
  | cons item items ih =>
    obtain ⟨own, held⟩ := each item (.head _)
    obtain ⟨rest, others⟩ := ih fun other member => each other (.tail _ member)
    refine ⟨max own rest, fun other member => ?_⟩
    rcases List.mem_cons.mp member with rfl | later
    · exact mono _ _ _ (le_max_left _ _) held
    · exact mono _ _ _ (le_max_right _ _) (others other later)

theorem exists_printable (value : PlainJson) : ∃ digits, printable digits value = true := by
  induction value using Json.induct with
  | int value => exact ⟨_, by simp [printable]; exact le_rfl⟩
  | float value => exact value.elim
  | arr items ih =>
    obtain ⟨digits, held⟩ := common_bound items (fun item digits => printable digits item = true)
      (fun item few many within => printable_mono few many within item) ih
    exact ⟨digits, by rw [printable, printableItems_iff]; exact held⟩
  | obj members ih =>
    obtain ⟨digits, held⟩ := common_bound members
      (fun member digits => printable digits member.2 = true)
      (fun member few many within => printable_mono few many within member.2) ih
    exact ⟨digits, by rw [printable, printableMembers_iff]; exact held⟩
  | _ => exact ⟨0, rfl⟩

theorem plain_canonical_injective (left right : PlainJson) (leftDistinct : DistinctKeys left)
    (rightDistinct : DistinctKeys right) (same : canonicalJson left = canonicalJson right) :
    JsonValue.normalize left = JsonValue.normalize right := by
  obtain ⟨few, leftPrinted⟩ := exists_printable left
  obtain ⟨many, rightPrinted⟩ := exists_printable right
  have read (value : PlainJson) (distinct : DistinctKeys value)
      (printed : printable (max few many) value = true) :
      (Bytes.decodeUtf8 (canonicalJson value)).bind (loads (max few many)) =
        some (JsonValue.normalize value) := by
    rw [← printable_normalize] at printed
    have loaded := loads_render (max few many) (JsonValue.normalize value) [] printed
      (distinctKeys_normalize value distinct) rfl boundary_nil
    rw [List.append_nil] at loaded
    rw [canonicalJson, Bytes.decodeUtf8_utf8]
    exact loaded
  have leftRead := read left leftDistinct (printable_mono _ _ (le_max_left _ _) _ leftPrinted)
  rw [same, read right rightDistinct (printable_mono _ _ (le_max_right _ _) _ rightPrinted)]
    at leftRead
  exact (Option.some.inj leftRead).symm

variable (left right : Members Empty) (leftDistinct : DistinctKeys (.obj left))
  (rightDistinct : DistinctKeys (.obj right))

include leftDistinct rightDistinct

/-- Objects that are equal up to the order of their members have the same under every key. -/
theorem normal_get
    (same : JsonValue.normalize (.obj left : PlainJson) = JsonValue.normalize (.obj right))
    (key : String) :
    JsonValue.normalize (JsonRecord.get left key) = JsonValue.normalize (JsonRecord.get right key) := by
  rw [← get_normalize left leftDistinct.1, ← get_normalize right rightDistinct.1, Json.obj.inj same]

theorem canonical_get
    (same : canonicalJson (.obj left : PlainJson) = canonicalJson (.obj right : PlainJson))
    (key : String) :
    JsonValue.normalize (JsonRecord.get left key) = JsonValue.normalize (JsonRecord.get right key) :=
  normal_get left right leftDistinct rightDistinct
    (plain_canonical_injective _ _ leftDistinct rightDistinct same) key

end DosWeb.Identifiers
