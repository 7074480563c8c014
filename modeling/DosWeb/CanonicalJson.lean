import DosWeb.Identifiers
import DosWeb.Library.JsonSize

/-!
What the canonical text of a value determines, and what its digest does.
-/

namespace DosWeb.Identifiers

open Library Library.JsonValue Library.JsonText Library.JsonSize Library.JsonRoundTrip

variable {F : Type} [FloatText F]

def CollisionFree (left right : List UInt8) : Prop :=
  Sha256.hexdigest left = Sha256.hexdigest right → left = right

theorem canonical_normalize (value : Json F) (distinct : DistinctKeys value) :
    canonicalJson (JsonValue.normalize value) = canonicalJson value := by
  rw [canonicalJson, canonicalJson, normalize_idempotent value distinct]

theorem digest_normalize (value : Json F) (distinct : DistinctKeys value) :
    digestOf (JsonValue.normalize value) = digestOf value := by
  rw [digestOf, digestOf, printable_normalize, sha256CanonicalJson, sha256CanonicalJson,
    canonical_normalize value distinct]

theorem canonical_size (members : Members F) (filled : members ≠ []) :
    (canonicalJson (.obj members)).length =
      (members.map fun member => memberSize (member.1, JsonValue.normalize member.2)).sum + 1 := by
  have perm := normalizeMembers_perm members
  have ordered : normalizeMembers members ≠ [] := by
    intro empty
    rw [empty] at perm
    exact filled (List.map_eq_nil_iff.mp perm.nil_eq.symm)
  have sizes := (perm.map memberSize).sum_nat
  rw [canonicalJson, JsonValue.normalize, object_size _ ordered, sizes, List.map_map]
  rfl

variable [LawfulFloatText F]

theorem canonical_read (value : Json F) (printed : printable maxIntegerDigits value = true)
    (distinct : DistinctKeys value) :
    (Bytes.decodeUtf8 (canonicalJson value)).bind (loads maxIntegerDigits) =
      some (JsonValue.normalize value) := by
  rw [← printable_normalize] at printed
  have read := loads_render maxIntegerDigits (JsonValue.normalize value) [] printed
    (distinctKeys_normalize value distinct) rfl boundary_nil
  rw [List.append_nil] at read
  rw [canonicalJson, Bytes.decodeUtf8_utf8]
  exact read

theorem canonical_injective (left right : Json F)
    (leftPrinted : printable maxIntegerDigits left = true)
    (rightPrinted : printable maxIntegerDigits right = true) (leftDistinct : DistinctKeys left)
    (rightDistinct : DistinctKeys right) (same : canonicalJson left = canonicalJson right) :
    JsonValue.normalize left = JsonValue.normalize right := by
  have leftRead := canonical_read left leftPrinted leftDistinct
  rw [same, canonical_read right rightPrinted rightDistinct] at leftRead
  exact (Option.some.inj leftRead).symm

end DosWeb.Identifiers
