import DosWeb.Library.JsonText
import DosWeb.Library.Text

/-!
The code points of texts and of canonical JSON texts on natural numbers alone, for proofs by
evaluation.
-/

namespace DosWeb.Library.JsonCodes

open Library.JsonValue Library.JsonText

/-- The code points of a text; the bytes themselves where all of them are below 128. -/
def codes (text : String) : List Nat :=
  let bytes := text.toByteArray.data.toList.map UInt8.toNat
  if bytes.all fun byte => Nat.blt byte 128 then bytes else text.toList.map Char.toNat

theorem encode_small (c : Char) (plain : ∀ byte ∈ String.utf8EncodeChar c, byte.toNat < 128) :
    (String.utf8EncodeChar c).map UInt8.toNat = [c.toNat] := by
  have same : c.val.toNat = c.toNat := rfl
  unfold String.utf8EncodeChar at plain ⊢
  simp only [same] at plain ⊢
  split
  · simp only [List.map_cons, List.map_nil, UInt8.toNat_ofNat', List.cons.injEq, and_true]
    omega
  · -- the first byte of a longer code is at least 192
    rename_i large
    rw [if_neg large] at plain
    exfalso
    split at plain
    · have first := plain _ (.head _)
      rw [UInt8.toNat_ofNat'] at first
      omega
    · split at plain
      · have first := plain _ (.head _)
        rw [UInt8.toNat_ofNat'] at first
        omega
      · have first := plain _ (.head _)
        rw [UInt8.toNat_ofNat'] at first
        omega

theorem encode_codes (text : List Char)
    (plain : ∀ byte ∈ text.flatMap String.utf8EncodeChar, byte.toNat < 128) :
    (text.flatMap String.utf8EncodeChar).map UInt8.toNat = text.map Char.toNat := by
  induction text with
  | nil => rfl
  | cons c text ih =>
    rw [List.flatMap_cons] at plain ⊢
    have own : ∀ byte ∈ String.utf8EncodeChar c, byte.toNat < 128 :=
      fun byte inside => plain byte (List.mem_append_left _ inside)
    have rest := ih fun byte inside => plain byte (List.mem_append_right _ inside)
    have first := encode_small c own
    rw [List.map_append, first, rest, List.map_cons, List.singleton_append]

theorem codes_eq (text : String) : codes text = text.toList.map Char.toNat := by
  have bytes : text.toByteArray.data.toList = text.toList.flatMap String.utf8EncodeChar := by
    rw [← String.utf8Encode_toList, List.utf8Encode, List.toList_data_toByteArray]
  unfold codes
  dsimp only
  split
  · rename_i plain
    rw [bytes] at plain ⊢
    apply encode_codes
    intro byte inside
    have own := List.all_eq_true.mp plain byte.toNat (List.mem_map_of_mem inside)
    exact Nat.blt_eq.mp own
  · rfl

def before : List Nat → List Nat → Bool
  | _, [] => false
  | [], _ :: _ => true
  | left :: lefts, right :: rights =>
    Nat.blt left right || (Nat.beq left right && before lefts rights)

theorem before_iff (left right : List Char) :
    before (left.map Char.toNat) (right.map Char.toNat) = true ↔ left < right := by
  induction left generalizing right with
  | nil => cases right <;> simp [before]
  | cons c left ih =>
    cases right with
    | nil => simp [before]
    | cons d right =>
      rw [List.map_cons, List.map_cons, before, Bool.or_eq_true, Bool.and_eq_true, Nat.blt_eq,
        Nat.beq_eq, ih, List.cons_lt_cons_iff, Char.toNat_inj]
      exact Iff.rfl

theorem before_codes (left right : String) :
    before (codes left) (codes right) = false ↔ right ≤ left := by
  rw [codes_eq, codes_eq, ← Bool.not_eq_true, before_iff, ← String.lt_iff_toList_lt, not_lt]

/-- The code points that stand for one inside a quoted text. -/
def escapeCodes (code : Nat) : List Nat := bif Nat.blt 92 code then [code]
  else bif Nat.beq code 92 then [92, 92]
  else bif Nat.blt 34 code then [code]
  else bif Nat.beq code 34 then [92, 34]
  else bif Nat.beq code 10 then [92, 110]
  else bif Nat.beq code 13 then [92, 114]
  else bif Nat.beq code 9 then [92, 116]
  else bif Nat.beq code 12 then [92, 102]
  else bif Nat.beq code 8 then [92, 98]
  else bif Nat.blt code 32 then
    [92, 117, 48, 48, (hexDigit (code / 16)).toNat, (hexDigit (code % 16)).toNat]
  else [code]

theorem escape_codes (c : Char) : (escapeChar c).map Char.toNat = escapeCodes c.toNat := by
  have named (d : Char) : c = d ↔ c.toNat = d.toNat := Char.toNat_inj.symm
  unfold escapeChar escapeCodes
  simp only [named, cond_eq_ite, Nat.blt_eq, Nat.beq_eq]
  change List.map Char.toNat (if c.toNat = 34 then _ else if c.toNat = 92 then _
    else if c.toNat = 10 then _ else if c.toNat = 13 then _ else if c.toNat = 9 then _
    else if c.toNat = 12 then _ else if c.toNat = 8 then _ else _) = _
  have plain : [c].map Char.toNat = [c.toNat] := rfl
  generalize c.toNat = code at plain ⊢
  split_ifs <;> first | rfl | exact plain | omega

def quoteCodes (text : List Nat) : List Nat := 34 :: (text.flatMap escapeCodes ++ [34])

theorem quote_codes (text : String) : (quote text).map Char.toNat = quoteCodes (codes text) := by
  rw [quote, quoteCodes, codes_eq, List.map_cons, List.map_append, List.map_flatMap,
    List.flatMap_map]
  simp only [escape_codes]
  rfl

/-- Puts a member before the first one with a greater or equal key. -/
def insertCodes (key text : List Nat) : List (List Nat × List Nat) → List (List Nat × List Nat)
  | [] => [(key, text)]
  | entry :: entries =>
    bif before entry.1 key then entry :: insertCodes key text entries
    else (key, text) :: entry :: entries

def joinMore : List (List Nat × List Nat) → List Nat
  | [] => [125]
  | entry :: entries => 44 :: (quoteCodes entry.1 ++ 58 :: (entry.2 ++ joinMore entries))

def joinEntries : List (List Nat × List Nat) → List Nat
  | [] => [125]
  | entry :: entries => quoteCodes entry.1 ++ 58 :: (entry.2 ++ joinMore entries)

variable {F : Type} [FloatText F]

mutual

def canonicalCodes : Json F → List Nat
  | .null => [110, 117, 108, 108]
  | .bool true => [116, 114, 117, 101]
  | .bool false => [102, 97, 108, 115, 101]
  | .int value => (intText value).map Char.toNat
  | .float value => (FloatText.render value).map Char.toNat
  | .str text => quoteCodes (codes text)
  | .arr items => 91 :: itemCodes items
  | .obj members => 123 :: joinEntries (memberCodes members)

def itemCodes : List (Json F) → List Nat
  | [] => [93]
  | item :: items => canonicalCodes item ++ moreItemCodes items

def moreItemCodes : List (Json F) → List Nat
  | [] => [93]
  | item :: items => 44 :: (canonicalCodes item ++ moreItemCodes items)

def memberCodes : Members F → List (List Nat × List Nat)
  | [] => []
  | (key, value) :: members =>
    insertCodes (codes key) (canonicalCodes value) (memberCodes members)

end

def entryOf (member : String × Json F) : List Nat × List Nat :=
  (codes member.1, (render member.2).map Char.toNat)

theorem insert_codes (key : String) (value : Json F) (members : Members F) :
    insertCodes (codes key) ((render value).map Char.toNat) (members.map entryOf) =
      (insertMember key value members).map entryOf := by
  induction members with
  | nil => rfl
  | cons member members ih =>
    rw [List.map_cons, insertCodes, ih, insertMember]
    cases order : before (codes member.1) (codes key) with
    | false =>
      rw [if_pos ((before_codes member.1 key).mp order)]
      rw [show before (entryOf member).1 (codes key) = false from order]
      rfl
    | true =>
      have other : ¬ key ≤ member.1 := by
        rw [← before_codes, order]
        decide
      rw [if_neg other, show before (entryOf member).1 (codes key) = true from order]
      rfl

variable (members : Members F)

theorem member_codes (each : ∀ member ∈ members,
      canonicalCodes member.2 = (render (JsonValue.normalize member.2)).map Char.toNat) :
    memberCodes members = (normalizeMembers members).map entryOf := by
  induction members with
  | nil => rfl
  | cons member members ih =>
    obtain ⟨own, rest⟩ := List.forall_mem_cons.mp each
    rw [memberCodes, normalizeMembers, own, ih rest, insert_codes]

theorem join_more :
    joinMore (members.map entryOf) = (renderMoreMembers members).map Char.toNat := by
  induction members with
  | nil => rfl
  | cons member members ih =>
    simp only [List.map_cons, joinMore, renderMoreMembers, List.map_append, quote_codes, ih,
      entryOf]
    rfl

theorem join_entries :
    joinEntries (members.map entryOf) = (renderMembers members).map Char.toNat := by
  cases members with
  | nil => rfl
  | cons member members =>
    simp only [List.map_cons, joinEntries, renderMembers, List.map_append, quote_codes, join_more,
      entryOf]
    rfl

theorem more_item_codes (items : List (Json F)) (each : ∀ item ∈ items,
      canonicalCodes item = (render (JsonValue.normalize item)).map Char.toNat) :
    moreItemCodes items = (renderMoreItems (items.map JsonValue.normalize)).map Char.toNat := by
  induction items with
  | nil => rfl
  | cons item items ih =>
    obtain ⟨own, rest⟩ := List.forall_mem_cons.mp each
    rw [moreItemCodes, own, ih rest, List.map_cons, renderMoreItems, List.map_cons, List.map_append]
    rfl

theorem canonical_codes (value : Json F) :
    canonicalCodes value = (render (JsonValue.normalize value)).map Char.toNat := by
  induction value using Json.induct with
  | null => rfl
  | bool value => cases value <;> rfl
  | int value => rfl
  | float value => rfl
  | str text => exact (quote_codes text).symm
  | arr items ih =>
    rw [canonicalCodes, JsonValue.normalize, normalizeItems_eq_map, render, List.map_cons]
    cases items with
    | nil => rfl
    | cons item items =>
      obtain ⟨own, rest⟩ := List.forall_mem_cons.mp ih
      rw [itemCodes, own, more_item_codes items rest, List.map_cons, renderItems, List.map_append]
      rfl
  | obj members ih =>
    rw [canonicalCodes, member_codes members ih, join_entries]
    rfl

def byteCodes (code : Nat) : List Nat := bif Nat.blt code 128 then [code]
  else (String.utf8EncodeChar (Char.ofNat code)).map UInt8.toNat

theorem byte_codes (text : List Char) :
    (Text.utf8 text).map UInt8.toNat = (text.map Char.toNat).flatMap byteCodes := by
  rw [Text.utf8, List.map_flatMap, List.flatMap_map]
  congr 1
  funext c
  unfold byteCodes
  cases small : Nat.blt c.toNat 128 with
  | false => rw [Char.ofNat_toNat]; rfl
  | true =>
    have below : c.val.toNat ≤ 127 := Nat.le_of_lt_succ (Nat.blt_eq.mp small)
    have code : c.val.toNat % 256 = c.val.toNat := by omega
    simp only [String.utf8EncodeChar, if_pos below, List.map_cons, List.map_nil, UInt8.toNat_ofNat']
    exact congrArg (· :: []) code

end DosWeb.Library.JsonCodes
