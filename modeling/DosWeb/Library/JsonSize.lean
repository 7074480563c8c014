import DosWeb.Library.Bytes
import DosWeb.Library.JsonRoundTrip
import Mathlib.Data.List.Perm.Basic
import Mathlib.Algebra.GroupWithZero.Nat

/-!
How far a JSON value spreads: its nodes with their nesting, and bounds on its text.
-/

namespace DosWeb.Library.JsonSize

open Library.JsonValue Library.JsonText Library.JsonRoundTrip

section

variable {F : Type}

mutual

/-- The value and everything in it, each with its nesting. -/
def spread (depth : Nat) : Json F → List (Json F × Nat)
  | .arr items => (.arr items, depth) :: spreadItems (depth + 1) items
  | .obj members => (.obj members, depth) :: spreadMembers (depth + 1) members
  | leaf => [(leaf, depth)]

def spreadItems (depth : Nat) : List (Json F) → List (Json F × Nat)
  | [] => []
  | item :: items => spread depth item ++ spreadItems depth items

def spreadMembers (depth : Nat) : Members F → List (Json F × Nat)
  | [] => []
  | (_, value) :: members => spread depth value ++ spreadMembers depth members

end

theorem spreadItems_eq (depth : Nat) (items : List (Json F)) :
    spreadItems depth items = items.flatMap (spread depth) := by
  induction items with
  | nil => rfl
  | cons item items ih => simp [spreadItems, ih]

theorem spreadMembers_eq (depth : Nat) (members : Members F) :
    spreadMembers depth members = members.flatMap fun member => spread depth member.2 := by
  induction members with
  | nil => rfl
  | cons member members ih => simp [spreadMembers, ih]

theorem spread_normalize (depth : Nat) (json : Json F) :
    (spread depth (JsonValue.normalize json)).Perm
      ((spread depth json).map fun node => (JsonValue.normalize node.1, node.2)) := by
  induction json using Json.induct generalizing depth with
  | arr items ih =>
    simp only [JsonValue.normalize, spread, spreadItems_eq, normalizeItems_eq_map, List.map_cons,
      List.flatMap_map, List.map_flatMap]
    exact (List.Perm.flatMap_left _ fun item member => ih item member (depth + 1)).cons _
  | obj members ih =>
    simp only [JsonValue.normalize, spread, spreadMembers_eq, List.map_cons, List.map_flatMap]
    have reordered := (normalizeMembers_perm members).flatMap_right
      fun member => spread (depth + 1) member.2
    rw [List.flatMap_map] at reordered
    exact (reordered.trans (List.Perm.flatMap_left _
      fun member present => ih member present (depth + 1))).cons _
  | _ => simp [JsonValue.normalize, spread]

end

variable {F : Type} [FloatText F]

def Inline (c : Char) : Prop := c ≠ '\n' ∧ c ≠ '\r'

theorem digit_inline (c : Char) (digit : c.isDigit = true) : Inline c := by
  constructor <;> rintro rfl <;> exact absurd digit (by decide)

theorem number_inline (sign whole fraction exponent : List Char)
    (literal : NumberLiteral sign whole fraction exponent) :
    ∀ c ∈ sign ++ (whole ++ (fraction ++ exponent)), Inline c := by
  have signed : ∀ c ∈ sign, Inline c := by
    rcases literal.sign with rfl | rfl
    · simp
    · simp [Inline]
  have wholes : ∀ c ∈ whole, Inline c := by
    rcases literal.whole with rfl | ⟨first, digits, rfl, digit, _, rest⟩
    · simp [Inline]
    · rintro c (_ | ⟨_, member⟩)
      · exact digit_inline _ digit
      · exact digit_inline c (rest c member)
  have fractions : ∀ c ∈ fraction, Inline c := by
    rcases literal.fraction with rfl | ⟨digits, all, rfl⟩
    · simp
    · rintro c (_ | ⟨_, member⟩)
      · simp [Inline]
      · exact digit_inline c (all.2 c member)
  have exponents : ∀ c ∈ exponent, Inline c := by
    rcases literal.exponent with rfl | ⟨mark, signs, digits, marked, signed, all, rfl⟩
    · simp
    · rintro c (_ | ⟨_, member⟩)
      · rcases marked with rfl | rfl <;> simp [Inline]
      · rcases List.mem_append.mp member with inSign | inDigits
        · rcases signed with rfl | rfl | rfl <;> simp_all [Inline]
        · exact digit_inline c (all.2 c inDigits)
  intro c member
  simp only [List.mem_append] at member
  rcases member with member | member | member | member
  · exact signed c member
  · exact wholes c member
  · exact fractions c member
  · exact exponents c member

theorem hexDigit_inline (value : Nat) (small : value < 16) : Inline (hexDigit value) := by
  have all : ∀ value < 16, hexDigit value ≠ '\n' ∧ hexDigit value ≠ '\r' := by decide
  exact all value small

theorem escapeChar_inline (c : Char) : ∀ d ∈ escapeChar c, Inline d := by
  unfold escapeChar
  split_ifs with quote backslash newline carriage tab feed backspace control
  iterate 7 · simp [Inline]
  · intro d member
    have high := hexDigit_inline (c.toNat / 16) (by omega)
    have low := hexDigit_inline (c.toNat % 16) (by omega)
    simp only [List.mem_cons, List.not_mem_nil, or_false] at member
    rcases member with rfl | rfl | rfl | rfl | rfl | rfl
    iterate 4 · simp [Inline]
    · exact high
    · exact low
  · intro d member
    rw [List.mem_singleton.mp member]
    exact ⟨newline, carriage⟩

theorem quote_inline (text : String) : ∀ c ∈ quote text, Inline c := by
  intro c member
  simp only [quote, List.mem_cons, List.mem_append, List.mem_flatMap, List.not_mem_nil,
    or_false] at member
  rcases member with rfl | ⟨d, _, escaped⟩ | rfl
  · simp [Inline]
  · exact escapeChar_inline d c escaped
  · simp [Inline]

theorem utf8_char_positive (c : Char) : 0 < (String.utf8EncodeChar c).length := by
  simpa using c.utf8Size_pos

theorem escapeChar_bytes (c : Char) :
    (String.utf8EncodeChar c).length ≤ (Text.utf8 (escapeChar c)).length := by
  by_cases plain : escapeChar c = [c]
  · simp [plain, Text.utf8]
  · have single : (String.utf8EncodeChar c).length = 1 := by
      have small : c.toNat < 128 := by
        by_contra large
        apply plain
        have other : ∀ d : Char, d.toNat < 128 → c ≠ d := fun d below same => large (same ▸ below)
        simp [escapeChar, other, show ¬ c.toNat < 32 by omega]
      have ascii := Text.utf8_length_ascii [c] (by simpa using small)
      simpa [Text.utf8] using ascii
    have filled : ∃ d rest, escapeChar c = d :: rest := by
      unfold escapeChar
      split_ifs <;> exact ⟨_, _, rfl⟩
    obtain ⟨d, rest, shape⟩ := filled
    rw [single, shape, Bytes.utf8_cons, List.length_append]
    have positive := utf8_char_positive d
    omega

theorem quote_bytes (text : String) :
    (Text.utf8 text.toList).length ≤ (Text.utf8 (quote text)).length := by
  have body : ∀ chars : List Char,
      (Text.utf8 chars).length ≤ (Text.utf8 (chars.flatMap escapeChar)).length := by
    intro chars
    induction chars with
    | nil => simp [Text.utf8]
    | cons c chars ih =>
      have own := escapeChar_bytes c
      rw [List.flatMap_cons, Bytes.utf8_append, Bytes.utf8_cons, List.length_append,
        List.length_append]
      omega
  have inner := body text.toList
  rw [quote, Bytes.utf8_cons, Bytes.utf8_append, List.length_append, List.length_append]
  omega

theorem item_bytes (item : Json F) (items : List (Json F)) (member : item ∈ items) :
    (Text.utf8 (render item)).length ≤ (Text.utf8 (renderMoreItems items)).length := by
  induction items with
  | nil => cases member
  | cons other items ih =>
    rw [renderMoreItems, Bytes.utf8_cons, Bytes.utf8_append, List.length_append, List.length_append]
    rcases List.mem_cons.mp member with rfl | later
    · omega
    · have rest := ih later
      omega

theorem member_bytes (member : String × Json F) (members : Members F) (present : member ∈ members) :
    (Text.utf8 (render member.2)).length ≤ (Text.utf8 (renderMoreMembers members)).length := by
  induction members with
  | nil => cases present
  | cons other members ih =>
    rw [renderMoreMembers, Bytes.utf8_cons, Bytes.utf8_append, Bytes.utf8_cons, Bytes.utf8_append]
    simp only [List.length_append]
    rcases List.mem_cons.mp present with rfl | later
    · omega
    · have rest := ih later
      omega

theorem mark_sizes : (String.utf8EncodeChar ',').length = 1 ∧
    (String.utf8EncodeChar ':').length = 1 ∧ (String.utf8EncodeChar '\x7b').length = 1 ∧
    (String.utf8EncodeChar '[').length = 1 ∧ (String.utf8EncodeChar '"').length = 1 := by
  decide

/-- The bytes that one member takes, with its colon and the comma or brace after it. -/
def memberSize (member : String × Json F) : Nat :=
  (Text.utf8 (quote member.1)).length + (Text.utf8 (render member.2)).length + 2

theorem more_members_size (members : Members F) :
    (Text.utf8 (renderMoreMembers members)).length = (members.map memberSize).sum + 1 := by
  induction members with
  | nil => rfl
  | cons member members ih =>
    obtain ⟨comma, colon, -, -, -⟩ := mark_sizes
    simp only [renderMoreMembers, Bytes.utf8_cons, Bytes.utf8_append, List.length_append, ih,
      List.map_cons, List.sum_cons, memberSize, comma, colon]
    omega

theorem object_size (members : Members F) (filled : members ≠ []) :
    (Text.utf8 (render (.obj members))).length = (members.map memberSize).sum + 1 := by
  cases members with
  | nil => exact absurd rfl filled
  | cons member members =>
    obtain ⟨-, colon, brace, -, -⟩ := mark_sizes
    simp only [render, renderMembers, Bytes.utf8_cons, Bytes.utf8_append, List.length_append,
      more_members_size, List.map_cons, List.sum_cons, memberSize, brace, colon]
    omega

theorem quote_size (text : String) (plain : ∀ c ∈ text.toList, escapeChar c = [c])
    (ascii : ∀ c ∈ text.toList, c.toNat < 128) :
    (Text.utf8 (quote text)).length = text.length + 2 := by
  have same : text.toList.flatMap escapeChar = text.toList := by
    have each : text.toList.flatMap escapeChar = text.toList.flatMap fun c => [c] :=
      List.flatMap_congr plain
    rw [each, List.flatMap_singleton']
  obtain ⟨-, -, -, -, mark⟩ := mark_sizes
  rw [quote, same, Bytes.utf8_cons, Bytes.utf8_append, List.length_append, List.length_append,
    Text.utf8_length_ascii _ ascii, String.length_toList, Bytes.utf8_cons, List.length_append, mark]
  have none : (Text.utf8 []).length = 0 := rfl
  omega

theorem spread_text_bytes (depth level : Nat) (json : Json F) (text : String)
    (member : (Json.str text, level) ∈ spread depth json) :
    (Text.utf8 text.toList).length ≤ (Text.utf8 (render json)).length := by
  induction json using Json.induct generalizing depth with
  | str own =>
    simp only [spread, List.mem_singleton, Prod.mk.injEq, Json.str.injEq] at member
    rw [member.1]
    exact quote_bytes own
  | arr items ih =>
    simp only [spread, List.mem_cons, Prod.mk.injEq, reduceCtorEq, false_and, false_or,
      spreadItems_eq, List.mem_flatMap] at member
    rcases member with ⟨item, present, inside⟩
    have own := ih item present (depth + 1) inside
    have within := item_bytes item items present
    cases items with
    | nil => cases present
    | cons first items =>
      obtain ⟨comma, -, -, bracket, -⟩ := mark_sizes
      simp only [render, renderItems, renderMoreItems, Bytes.utf8_cons,
        List.length_append] at within ⊢
      omega
  | obj members ih =>
    simp only [spread, List.mem_cons, Prod.mk.injEq, reduceCtorEq, false_and, false_or,
      spreadMembers_eq, List.mem_flatMap] at member
    rcases member with ⟨entry, present, inside⟩
    have own := ih entry present (depth + 1) inside
    have within := member_bytes entry members present
    cases members with
    | nil => cases present
    | cons first members =>
      obtain ⟨comma, -, brace, -, -⟩ := mark_sizes
      simp only [render, renderMembers, renderMoreMembers, Bytes.utf8_cons,
        List.length_append] at within ⊢
      omega
  | _ => simp [spread] at member

variable [LawfulFloatText F]

theorem render_inline (maxDigits : Nat) (json : Json F) (printed : printable maxDigits json = true) :
    ∀ c ∈ render json, Inline c := by
  induction json using Json.induct with
  | null => simp [render, Inline]
  | bool value => cases value <;> simp [render, Inline]
  | int value =>
    rw [render, intText_eq]
    have inline := number_inline _ _ _ _ (int_literal value)
    simpa using inline
  | float value =>
    rcases LawfulFloatText.literal value printed with ⟨sign, whole, fraction, exponent, literal, _, shape⟩
    rw [render, shape]
    exact number_inline _ _ _ _ literal
  | str text => exact quote_inline text
  | arr items ih =>
    simp only [printable, printableItems_iff] at printed
    have more : ∀ c ∈ renderMoreItems items, Inline c := by
      induction items with
      | nil => simp [renderMoreItems, Inline]
      | cons item items rest =>
        have own := ih item (.head _) (printed item (.head _))
        have tail := rest (fun other member => ih other (.tail _ member))
          (fun other member => printed other (.tail _ member))
        intro c member
        simp only [renderMoreItems, List.mem_cons, List.mem_append] at member
        rcases member with rfl | member | member
        · simp [Inline]
        · exact own c member
        · exact tail c member
    cases items with
    | nil => simp [render, renderItems, Inline]
    | cons item items =>
      intro c member
      simp only [render, renderItems, List.mem_cons] at member
      rcases member with rfl | member
      · simp [Inline]
      · exact more c (.tail _ member)
  | obj members ih =>
    simp only [printable, printableMembers_iff] at printed
    have more : ∀ c ∈ renderMoreMembers members, Inline c := by
      induction members with
      | nil => simp [renderMoreMembers, Inline]
      | cons member members rest =>
        have own := ih member (.head _) (printed member (.head _))
        have tail := rest (fun other present => ih other (.tail _ present))
          (fun other present => printed other (.tail _ present))
        intro c present
        simp only [renderMoreMembers, List.mem_cons, List.mem_append] at present
        rcases present with rfl | present | rfl | present | present
        · simp [Inline]
        · exact quote_inline _ c present
        · simp [Inline]
        · exact own c present
        · exact tail c present
    cases members with
    | nil => simp [render, renderMembers, Inline]
    | cons member members =>
      intro c present
      simp only [render, renderMembers, List.mem_cons] at present
      rcases present with rfl | present
      · simp [Inline]
      · exact more c (List.mem_cons_of_mem _ (by simpa [renderMembers] using present))

end DosWeb.Library.JsonSize
