import DosWeb.Errors
import DosWeb.Library.JsonCodes
import DosWeb.Library.Sha256Rolling

namespace DosWeb.Identifiers

open Library Library.JsonValue Library.JsonText

section

variable {F : Type} [FloatText F]

/-- `json.dumps` with sorted keys and no white space, in UTF-8. -/
def canonicalJson (value : Json F) : List UInt8 := Text.utf8 (render (JsonValue.normalize value))

def sha256CanonicalJson (value : Json F) : String := Sha256.hexdigest (canonicalJson value)

/-- The bytes of the canonical text, from its code points. -/
def canonicalBytes (value : Json F) : List Nat :=
  (JsonCodes.canonicalCodes value).flatMap JsonCodes.byteCodes

theorem canonical_length (value : Json F) :
    (canonicalJson value).length = (canonicalBytes value).length := by
  rw [canonicalJson, canonicalBytes, JsonCodes.canonical_codes, ← JsonCodes.byte_codes,
    List.length_map]

theorem digest_codes (value : Json F) :
    sha256CanonicalJson value = String.ofList (Sha256.rollingDigits (canonicalBytes value)) := by
  rw [sha256CanonicalJson, Sha256.hexdigest_rolling, canonicalJson, JsonCodes.byte_codes,
    canonicalBytes, JsonCodes.canonical_codes]

def digestOf (value : Json F) : Option String :=
  if printable maxIntegerDigits value then some (sha256CanonicalJson value) else none

theorem digest_of (value : Json F) (digest : String) : digestOf value = some digest ↔
      printable maxIntegerDigits value = true ∧ sha256CanonicalJson value = digest := by
  unfold digestOf
  split <;> simp_all

end

def stableIdentifier (lead : String) (semanticIdentity : Members Empty) : String :=
  lead ++ ":" ++ String.ofList ((sha256CanonicalJson (.obj semanticIdentity)).toList.take 24)

variable (lead : String)

section

variable (semanticIdentity : Members Empty)

theorem identifier_codes : stableIdentifier lead semanticIdentity = lead ++ ":" ++ String.ofList
      ((Sha256.rollingDigits (canonicalBytes (.obj semanticIdentity))).take 24) := by
  rw [stableIdentifier, digest_codes, String.toList_ofList]

theorem stable_identifier_starts :
    Text.startsWith (stableIdentifier lead semanticIdentity) (lead ++ ":") = true :=
  Text.startsWith_append _ _

theorem stable_identifier_shape : ∃ digits : List Char,
      (stableIdentifier lead semanticIdentity).toList = (lead ++ ":").toList ++ digits ∧
        digits.length ≤ 24 ∧ ∀ c ∈ digits, c ∈ "0123456789abcdef".toList := by
  refine ⟨(sha256CanonicalJson (.obj semanticIdentity)).toList.take 24, ?_,
    List.length_take_le 24 _, ?_⟩
  · simp [stableIdentifier]
  · intro c member
    exact Sha256.hexdigest_digits _ c (List.mem_of_mem_take member)

end

def plainChar (c : Char) : Bool := c.toNat < 128 && c != Char.ofNat 0

theorem hex_plain : "0123456789abcdef".toList.all plainChar = true := by
  decide

theorem stable_identifier_plain (semanticIdentity : Members Empty)
    (plain : (lead ++ ":").toList.all plainChar = true) :
    Char.ofNat 0 ∉ (stableIdentifier lead semanticIdentity).toList ∧
      (Text.utf8 (stableIdentifier lead semanticIdentity).toList).length ≤ lead.length + 25 := by
  obtain ⟨digits, text, length, hex⟩ := stable_identifier_shape lead semanticIdentity
  have all : ∀ c ∈ (stableIdentifier lead semanticIdentity).toList, plainChar c = true := by
    rw [text]
    intro c member
    rcases List.mem_append.mp member with own | digit
    · exact List.all_eq_true.mp plain c own
    · exact List.all_eq_true.mp hex_plain c (hex c digit)
  simp only [plainChar, Bool.and_eq_true, decide_eq_true_eq, bne_iff_ne] at all
  constructor
  · exact fun member => (all _ member).2 rfl
  · rw [Text.utf8_length_ascii _ fun c member => (all c member).1, text, List.length_append]
    have size : (lead ++ ":").toList.length = lead.length + 1 := by
      simp [String.toList_append, String.length_toList]
    omega

theorem stable_identifier_nonempty (semanticIdentity : Members Empty) :
    stableIdentifier lead semanticIdentity ≠ "" := by
  apply Text.startsWith_nonempty _ _ _ (stable_identifier_starts lead semanticIdentity)
  simp

end DosWeb.Identifiers
