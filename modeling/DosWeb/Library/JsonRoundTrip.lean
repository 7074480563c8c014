import DosWeb.Library.JsonText

/-!
A rendered value is read back: first each token scanner on the text of its token,
then values by induction.
-/

namespace DosWeb.Library.JsonRoundTrip

open Library.JsonValue Library.JsonText

theorem hexValue_hexDigit : ∀ value < 16, hexValue (hexDigit value) = some value := by
  decide

theorem hexUnit_hexDigit (value : Nat) (small : value < 32) :
    hexUnit '0' '0' (hexDigit (value / 16)) (hexDigit (value % 16)) = some value := by
  have zero : hexValue '0' = some 0 := by decide
  have high := hexValue_hexDigit (value / 16) (by omega)
  have low := hexValue_hexDigit (value % 16) (by omega)
  have whole : value / 16 * 16 + value % 16 = value := by omega
  simp [hexUnit, zero, high, low, whole]

theorem scanUnits_plain (c : Char) (rest : List Char) (quoted : c ≠ '"') (escaped : c ≠ '\\')
    (printing : 32 ≤ c.toNat) :
    scanUnits (c :: rest) = (scanUnits rest).map fun (units, tail) => (c.toNat :: units, tail) := by
  rw [scanUnits.eq_def]
  split
  · contradiction
  · rename_i same
    exact absurd (List.cons.inj same).1 quoted
  · rename_i same
    exact absurd (List.cons.inj same).1 escaped
  · rename_i same
    exact absurd (List.cons.inj same).1 escaped
  · rename_i same
    obtain ⟨rfl, rfl⟩ := List.cons.inj same
    have plain : ¬ (c.toNat < 32 ∨ c = '\\') := by
      rintro (control | backslash)
      · omega
      · exact escaped backslash
    rw [if_neg plain]
    cases scanUnits rest <;> rfl

theorem scanUnits_escaped (c : Char) (unit : Nat) (rest : List Char) (known : c ≠ 'u')
    (stands : simpleEscape c = some unit) :
    scanUnits ('\\' :: c :: rest) = (scanUnits rest).map fun (units, tail) => (unit :: units, tail) := by
  rw [scanUnits.eq_def]
  split
  · contradiction
  · rename_i same
    exact absurd (List.cons.inj same).1 (by decide)
  · rename_i same
    exact absurd (List.cons.inj (List.cons.inj same).2).1 known
  · rename_i same
    obtain ⟨_, tail⟩ := List.cons.inj same
    obtain ⟨rfl, rfl⟩ := List.cons.inj tail
    rw [stands]
    cases scanUnits rest <;> rfl
  · rename_i plain same
    obtain ⟨rfl, rfl⟩ := List.cons.inj same
    exact absurd rfl (plain c rest rfl)

theorem scanUnits_escapeChar (c : Char) (rest : List Char) : scanUnits (escapeChar c ++ rest) =
      (scanUnits rest).map fun (units, tail) => (c.toNat :: units, tail) := by
  unfold escapeChar
  split_ifs with quote backslash newline carriage tab feed backspace control
  · subst quote
    exact scanUnits_escaped '"' 34 rest (by decide) (by decide)
  · subst backslash
    exact scanUnits_escaped '\\' 92 rest (by decide) (by decide)
  · subst newline
    exact scanUnits_escaped 'n' 10 rest (by decide) (by decide)
  · subst carriage
    exact scanUnits_escaped 'r' 13 rest (by decide) (by decide)
  · subst tab
    exact scanUnits_escaped 't' 9 rest (by decide) (by decide)
  · subst feed
    exact scanUnits_escaped 'f' 12 rest (by decide) (by decide)
  · subst backspace
    exact scanUnits_escaped 'b' 8 rest (by decide) (by decide)
  · simp only [List.cons_append, List.nil_append, scanUnits, hexUnit_hexDigit c.toNat control]
    cases scanUnits rest <;> rfl
  · exact scanUnits_plain c rest quote backslash (by omega)

theorem scanUnits_escaped_text (text rest : List Char) :
    scanUnits (text.flatMap escapeChar ++ '"' :: rest) = some (text.map Char.toNat, rest) := by
  induction text with
  | nil => simp [scanUnits]
  | cons c text ih =>
    rw [List.flatMap_cons, List.append_assoc, scanUnits_escapeChar, ih]
    rfl

theorem char_not_surrogate (c : Char) :
    highSurrogate c.toNat = false ∧ lowSurrogate c.toNat = false := by
  have valid := c.valid
  simp only [UInt32.isValidChar, Nat.isValidChar] at valid
  simp only [highSurrogate, lowSurrogate, Bool.and_eq_false_iff, decide_eq_false_iff_not]
  have same : c.toNat = c.val.toNat := rfl
  omega

theorem decodeUnits_text (text : List Char) : decodeUnits (text.map Char.toNat) = some text := by
  induction text with
  | nil => rfl
  | cons c text ih =>
    have own := char_not_surrogate c
    cases text with
    | nil => simp [decodeUnits, own, Char.ofNat_toNat]
    | cons next rest =>
      simp only [List.map_cons] at ih ⊢
      simp [decodeUnits, own, ih, Char.ofNat_toNat]

theorem scanText_quote (text : String) (rest : List Char) :
    scanText (text.toList.flatMap escapeChar ++ '"' :: rest) = some (text, rest) := by
  simp [scanText, scanUnits_escaped_text, decodeUnits_text]

/-- The text does not go on with a character that a number literal could take up. -/
def Boundary (rest : List Char) : Prop :=
  ∀ c tail, rest = c :: tail → c.isDigit = false ∧ c ≠ '.' ∧ c ≠ 'e' ∧ c ≠ 'E'

theorem boundary_nil : Boundary [] := by
  intro c tail same
  cases same

theorem boundary_cons (c : Char) (tail : List Char)
    (closing : c = ',' ∨ c = ']' ∨ c = '}' ∨ c = '\n') : Boundary (c :: tail) := by
  intro d rest same
  obtain ⟨rfl, rfl⟩ := List.cons.inj same
  rcases closing with rfl | rfl | rfl | rfl <;> decide

theorem spanDigits_append (digits rest : List Char) (all : ∀ c ∈ digits, c.isDigit = true)
    (stop : ∀ c tail, rest = c :: tail → c.isDigit = false) :
    spanDigits (digits ++ rest) = (digits, rest) := by
  induction digits with
  | nil =>
    cases rest with
    | nil => rfl
    | cons c tail => simp [spanDigits, stop c tail rfl]
  | cons c digits ih =>
    have own := all c (.head _)
    have later := ih (fun d member => all d (.tail _ member))
    simp [spanDigits, own, later]

theorem scanWhole_append (whole rest : List Char) (literal : WholeLiteral whole)
    (stop : ∀ c tail, rest = c :: tail → c.isDigit = false) :
    scanWhole (whole ++ rest) = some (whole, rest) := by
  rcases literal with rfl | ⟨first, digits, rfl, own, nonzero, all⟩
  · simp [scanWhole]
  · simp [scanWhole, own, nonzero, spanDigits_append digits rest all stop]

theorem scanFraction_append (fraction rest : List Char) (literal : FractionLiteral fraction)
    (stop : ∀ c tail, rest = c :: tail → c.isDigit = false ∧ c ≠ '.') :
    scanFraction (fraction ++ rest) = (fraction, rest) := by
  rcases literal with rfl | ⟨digits, ⟨filled, all⟩, rfl⟩
  · cases rest with
    | nil => rfl
    | cons c tail =>
      have point := (stop c tail rfl).2
      rw [List.nil_append, scanFraction.eq_def]
      split
      · rename_i same
        exact absurd (List.cons.inj same).1 point
      · rfl
  · have span := spanDigits_append digits rest all (fun c tail same => (stop c tail same).1)
    cases digits with
    | nil => exact absurd rfl filled
    | cons first digits =>
      rw [List.cons_append, scanFraction, span]

theorem scanExponentSign_append (sign digits : List Char)
    (signed : sign = [] ∨ sign = ['+'] ∨ sign = ['-'])
    (stop : ∀ c tail, digits = c :: tail → c.isDigit = true) :
    scanExponentSign (sign ++ digits) = (sign, digits) := by
  rcases signed with rfl | rfl | rfl
  · rw [List.nil_append, scanExponentSign.eq_def]
    split
    · rename_i tail
      exact absurd (stop '+' tail rfl) (by decide)
    · rename_i tail
      exact absurd (stop '-' tail rfl) (by decide)
    · rfl
  · rfl
  · rfl

theorem scanExponent_append (exponent rest : List Char) (literal : ExponentLiteral exponent)
    (stop : ∀ c tail, rest = c :: tail → c.isDigit = false ∧ c ≠ 'e' ∧ c ≠ 'E') :
    scanExponent (exponent ++ rest) = (exponent, rest) := by
  rcases literal with rfl | ⟨mark, sign, digits, marked, signed, ⟨filled, all⟩, rfl⟩
  · cases rest with
    | nil => rfl
    | cons c tail => simp [scanExponent, (stop c tail rfl).2]
  · have span := spanDigits_append digits rest all (fun c tail same => (stop c tail same).1)
    cases digits with
    | nil => exact absurd rfl filled
    | cons first digits =>
      have signs : scanExponentSign (sign ++ (first :: digits ++ rest)) =
          (sign, first :: digits ++ rest) := by
        apply scanExponentSign_append sign _ signed
        intro c tail same
        obtain ⟨rfl, _⟩ := List.cons.inj same
        exact all _ (.head _)
      rw [List.cons_append, List.append_assoc, scanExponent, if_pos marked, signs]
      simp only [span]

theorem scanSign_append (sign rest : List Char) (signed : sign = [] ∨ sign = ['-'])
    (stop : ∀ c tail, rest = c :: tail → c ≠ '-') : scanSign (sign ++ rest) = (sign, rest) := by
  rcases signed with rfl | rfl
  · rw [List.nil_append, scanSign.eq_def]
    split
    · rename_i tail
      exact absurd rfl (stop '-' tail rfl)
    · rfl
  · rfl

theorem exponent_head (exponent rest : List Char) (literal : ExponentLiteral exponent)
    (boundary : Boundary rest) (c : Char) (tail : List Char)
    (same : exponent ++ rest = c :: tail) : c.isDigit = false ∧ c ≠ '.' := by
  rcases literal with rfl | ⟨mark, sign, digits, marked, _, _, rfl⟩
  · have bounds := boundary c tail same
    exact ⟨bounds.1, bounds.2.1⟩
  · obtain ⟨rfl, _⟩ := List.cons.inj same
    rcases marked with rfl | rfl <;> decide

theorem fraction_head (fraction exponent rest : List Char) (fractional : FractionLiteral fraction)
    (exponential : ExponentLiteral exponent) (boundary : Boundary rest) (c : Char)
    (tail : List Char) (same : fraction ++ (exponent ++ rest) = c :: tail) : c.isDigit = false := by
  rcases fractional with rfl | ⟨digits, _, rfl⟩
  · exact (exponent_head exponent rest exponential boundary c tail same).1
  · obtain ⟨rfl, _⟩ := List.cons.inj same
    decide

theorem whole_head (whole rest : List Char) (literal : WholeLiteral whole) :
    ∃ c tail, whole ++ rest = c :: tail ∧ c.isDigit = true := by
  rcases literal with rfl | ⟨first, digits, rfl, own, _, _⟩
  · exact ⟨'0', rest, rfl, by decide⟩
  · exact ⟨first, digits ++ rest, rfl, own⟩

theorem scanNumber_append (sign whole fraction exponent rest : List Char)
    (literal : NumberLiteral sign whole fraction exponent) (boundary : Boundary rest) :
    scanNumber (sign ++ (whole ++ (fraction ++ (exponent ++ rest)))) =
      some (⟨sign, whole, fraction, exponent⟩, rest) := by
  have signs : scanSign (sign ++ (whole ++ (fraction ++ (exponent ++ rest)))) =
      (sign, whole ++ (fraction ++ (exponent ++ rest))) := by
    apply scanSign_append sign _ literal.sign
    intro c tail same
    rcases whole_head whole (fraction ++ (exponent ++ rest)) literal.whole with
      ⟨d, rest', shape, digit⟩
    obtain ⟨rfl, _⟩ := List.cons.inj (shape.symm.trans same)
    rintro rfl
    exact absurd digit (by decide)
  have wholes : scanWhole (whole ++ (fraction ++ (exponent ++ rest))) =
      some (whole, fraction ++ (exponent ++ rest)) := scanWhole_append whole _ literal.whole
      (fraction_head fraction exponent rest literal.fraction literal.exponent boundary)
  have fractions : scanFraction (fraction ++ (exponent ++ rest)) = (fraction, exponent ++ rest) :=
    scanFraction_append fraction _ literal.fraction
      (exponent_head exponent rest literal.exponent boundary)
  have exponents : scanExponent (exponent ++ rest) = (exponent, rest) := by
    apply scanExponent_append exponent rest literal.exponent
    intro c tail same
    have bounds := boundary c tail same
    exact ⟨bounds.1, bounds.2.2⟩
  simp [scanNumber, signs, wholes, fractions, exponents]

theorem toDigits_head (value : Nat) (positive : 0 < value) :
    ∃ first digits, Nat.toDigits 10 value = first :: digits ∧ first ≠ '0' := by
  induction value using Nat.strongRecOn with
  | ind value ih =>
    by_cases small : value < 10
    · refine ⟨value.digitChar, [], Nat.toDigits_of_lt_base small, ?_⟩
      have nonzero : ∀ digit < 10, 0 < digit → Nat.digitChar digit ≠ '0' := by decide
      exact nonzero value small positive
    · rcases ih (value / 10) (by omega) (by omega) with ⟨first, digits, shape, nonzero⟩
      refine ⟨first, digits ++ Nat.toDigits 10 (value % 10), ?_, nonzero⟩
      have step := Nat.toDigits_append_toDigits (show 1 < 10 by decide)
        (show 0 < value / 10 by omega) (Nat.mod_lt value (show 0 < 10 by decide))
      rw [shape, Nat.div_add_mod] at step
      exact step.symm

theorem toDigits_whole (value : Nat) : WholeLiteral (Nat.toDigits 10 value) := by
  by_cases zero : value = 0
  · subst zero
    exact Or.inl rfl
  · rcases toDigits_head value (by omega) with ⟨first, digits, shape, nonzero⟩
    have all : ∀ c ∈ Nat.toDigits 10 value, c.isDigit = true :=
      fun c member => Nat.isDigit_of_mem_toDigits (by decide) (by decide) member
    rw [shape] at all ⊢
    exact Or.inr ⟨first, digits, rfl, all first (.head _), nonzero,
      fun c member => all c (.tail _ member)⟩

def intSign (value : Int) : List Char := if 0 ≤ value then [] else ['-']

theorem intText_eq (value : Int) :
    intText value = intSign value ++ Nat.toDigits 10 value.natAbs := by
  cases value with
  | ofNat magnitude => simp [intText, intSign]
  | negSucc below => simp [intText, intSign, Int.negSucc_not_nonneg]

theorem int_literal (value : Int) :
    NumberLiteral (intSign value) (Nat.toDigits 10 value.natAbs) [] [] := by
  refine ⟨?_, toDigits_whole _, Or.inl rfl, Or.inl rfl⟩
  unfold intSign
  split
  · exact Or.inl rfl
  · exact Or.inr rfl

variable {F : Type} [FloatText F]

variable (maxDigits : Nat)

theorem int_token_value (value : Int) (short : (Nat.toDigits 10 value.natAbs).length ≤ maxDigits) :
    (NumberToken.mk (intSign value) (Nat.toDigits 10 value.natAbs) [] []).value maxDigits =
      some (Json.int value : Json F) := by
  simp only [NumberToken.value, and_self, if_true, if_pos short, Nat.ofDigitChars_ten_toDigits]
  by_cases nonnegative : 0 ≤ value
  · have whole : (value.natAbs : Int) = value := by omega
    simp only [intSign, if_pos nonnegative, whole]
    rfl
  · have whole : (value.natAbs : Int) = -value := by omega
    simp only [intSign, if_neg nonnegative, whole, Int.neg_neg]
    rfl

/-- A character that the text of a value can start with. -/
def Opening (c : Char) : Prop :=
  c = '"' ∨ c = '{' ∨ c = '[' ∨ c = 'n' ∨ c = 't' ∨ c = 'f' ∨ c = '-' ∨ c.isDigit = true

theorem opening_not_space (c : Char) (opening : Opening c) :
    ¬ (c = ' ' ∨ c = '\t' ∨ c = '\n' ∨ c = '\r') ∧ c ≠ ']' ∧ c ≠ '}' := by
  refine ⟨?_, ?_, ?_⟩
  · rintro (rfl | rfl | rfl | rfl) <;> revert opening <;> unfold Opening <;> decide
  · rintro rfl
    revert opening
    unfold Opening
    decide
  · rintro rfl
    revert opening
    unfold Opening
    decide

theorem literal_head (sign whole rest : List Char) (signed : sign = [] ∨ sign = ['-'])
    (literal : WholeLiteral whole) :
    ∃ c tail, sign ++ (whole ++ rest) = c :: tail ∧ (c = '-' ∨ c.isDigit = true) := by
  rcases signed with rfl | rfl
  · rcases whole_head whole rest literal with ⟨c, tail, same, digit⟩
    exact ⟨c, tail, same, Or.inr digit⟩
  · exact ⟨'-', whole ++ rest, rfl, Or.inl rfl⟩

theorem opening_of_numeric (c : Char) (numeric : c = '-' ∨ c.isDigit = true) : Opening c := by
  unfold Opening
  tauto

theorem skipSpace_opening (c : Char) (tail : List Char) (opening : Opening c) :
    skipSpace (c :: tail) = c :: tail := by
  rw [skipSpace, if_neg (opening_not_space c opening).1]

theorem skipSpace_symbol (c : Char) (tail : List Char) (symbol : c = ',' ∨ c = ':' ∨ c = ']' ∨ c = '}') :
    skipSpace (c :: tail) = c :: tail := by
  have solid : ¬ (c = ' ' ∨ c = '\t' ∨ c = '\n' ∨ c = '\r') := by
    rcases symbol with rfl | rfl | rfl | rfl <;> decide
  rw [skipSpace, if_neg solid]

theorem readValue_number (maxDigits fuel : Nat) (sign whole fraction exponent rest : List Char)
    (literal : NumberLiteral sign whole fraction exponent) (boundary : Boundary rest)
    (value : Json F)
    (denotes : (NumberToken.mk sign whole fraction exponent).value maxDigits = some value) :
    readValue maxDigits (fuel + 1) (sign ++ (whole ++ (fraction ++ (exponent ++ rest)))) =
      some (value, rest) := by
  have scanned := scanNumber_append sign whole fraction exponent rest literal boundary
  rcases literal_head sign whole (fraction ++ (exponent ++ rest)) literal.sign literal.whole with
    ⟨c, tail, same, numeric⟩
  rw [same] at scanned ⊢
  have refuted (d : Char) (symbol : d ≠ '-' ∧ d.isDigit = false) : c ≠ d := by
    rintro rfl
    rcases numeric with minus | digit
    · exact symbol.1 minus
    · rw [symbol.2] at digit
      contradiction
  rw [readValue]
  · simp [scanned, denotes]
  all_goals
    intro rest clash
    exact refuted _ (by decide) (List.cons.inj clash).1

theorem printableItems_iff (items : List (Json F)) :
    printableItems maxDigits items = true ↔ ∀ item ∈ items, printable maxDigits item = true := by
  induction items with
  | nil => simp [printableItems]
  | cons item items ih => simp [printableItems, ih]

theorem printableMembers_iff (members : Members F) : printableMembers maxDigits members = true ↔
      ∀ member ∈ members, printable maxDigits member.2 = true := by
  induction members with
  | nil => simp [printableMembers]
  | cons member members ih => simp [printableMembers, ih]

theorem printable_normalize (json : Json F) :
    printable maxDigits (JsonValue.normalize json) = printable maxDigits json := by
  induction json using Json.induct with
  | arr items ih =>
    rw [Bool.eq_iff_iff]
    simp only [JsonValue.normalize, printable, printableItems_iff, normalizeItems_eq_map,
      List.mem_map]
    constructor
    · intro all item member
      rw [← ih item member]
      exact all _ ⟨item, member, rfl⟩
    · rintro all _ ⟨item, member, rfl⟩
      rw [ih item member]
      exact all item member
  | obj members ih =>
    rw [Bool.eq_iff_iff]
    simp only [JsonValue.normalize, printable, printableMembers_iff,
      (normalizeMembers_perm members).mem_iff, List.mem_map]
    constructor
    · intro all member present
      rw [← ih member present]
      exact all _ ⟨member, present, rfl⟩
    · rintro all _ ⟨member, present, rfl⟩
      rw [ih member present]
      exact all member present
  | _ => simp [JsonValue.normalize]

variable [LawfulFloatText F]

theorem render_head (json : Json F) (printed : printable maxDigits json = true) :
    ∃ c tail, render json = c :: tail ∧ Opening c := by
  cases json with
  | null => exact ⟨'n', _, rfl, by unfold Opening; decide⟩
  | bool value => cases value <;> exact ⟨_, _, rfl, by unfold Opening; decide⟩
  | int value =>
    have literal := int_literal value
    rcases literal_head _ _ [] literal.sign literal.whole with ⟨c, tail, same, numeric⟩
    rw [List.append_nil, ← intText_eq] at same
    exact ⟨c, tail, same, opening_of_numeric c numeric⟩
  | float value =>
    rcases LawfulFloatText.literal value printed with ⟨sign, whole, _, _, literal, _, shape⟩
    rcases literal_head sign whole _ literal.sign literal.whole with ⟨c, tail, same, numeric⟩
    exact ⟨c, tail, by rw [render, shape, same], opening_of_numeric c numeric⟩
  | str text => exact ⟨'"', _, rfl, by unfold Opening; decide⟩
  | arr items => exact ⟨'[', _, rfl, by unfold Opening; decide⟩
  | obj members => exact ⟨'{', _, rfl, by unfold Opening; decide⟩

/-- Reading back one value whose text stands before any boundary, with enough fuel. -/
def ReadsBack (maxDigits : Nat) (json : Json F) : Prop :=
  ∀ fuel rest, 2 * (render json).length ≤ fuel → Boundary rest →
    readValue maxDigits fuel (render json ++ rest) = some (json, rest)

theorem items_read_back (item : Json F) (items : List (Json F))
    (printed : printableItems maxDigits (item :: items) = true)
    (members : ∀ each ∈ item :: items, ReadsBack maxDigits each) (fuel : Nat) (rest : List Char)
    (enough : 2 * (renderItems (item :: items)).length + 1 ≤ fuel) :
    readItems maxDigits fuel (renderItems (item :: items) ++ rest) =
      some (item :: items, rest) := by
  induction items generalizing item fuel with
  | nil =>
    cases fuel with
    | zero => omega
    | succ fuel =>
      simp only [renderItems, renderMoreItems, List.length_append, List.length_singleton] at enough
      have first := members item (.head _) fuel (']' :: rest) (by omega)
        (boundary_cons _ _ (by simp))
      simp only [renderItems, renderMoreItems, List.append_assoc, List.singleton_append,
        readItems, first]
      simp [skipSpace]
  | cons next items ih =>
    cases fuel with
    | zero => omega
    | succ fuel =>
      simp only [printableItems, Bool.and_eq_true] at printed
      have shape : renderMoreItems (next :: items) = ',' :: renderItems (next :: items) := rfl
      rw [renderItems, shape] at enough
      simp only [List.length_append, List.length_cons] at enough
      have first := members item (.head _) fuel
        (',' :: (renderItems (next :: items) ++ rest)) (by omega) (boundary_cons _ _ (by simp))
      have later := ih next (by simp [printableItems, printed])
        (fun each member => members each (.tail _ member)) fuel (by omega)
      rcases render_head maxDigits next printed.2.1 with ⟨c, tail, head, opening⟩
      have spaced : skipSpace (renderItems (next :: items) ++ rest) =
          renderItems (next :: items) ++ rest := by
        simp only [renderItems, head, List.cons_append]
        exact skipSpace_opening c _ opening
      rw [renderItems, shape, List.append_assoc, List.cons_append, readItems, first]
      simp [skipSpace, spaced, later]

theorem key_read_back (key : String) (value : Json F) (tail : List Char)
    (printed : printable maxDigits value = true) :
    ∃ body, quote key ++ ':' :: (render value ++ tail) = '"' :: body ∧
      scanText body = some (key, ':' :: (render value ++ tail)) ∧
      skipSpace (render value ++ tail) = render value ++ tail := by
  refine ⟨key.toList.flatMap escapeChar ++ '"' :: ':' :: (render value ++ tail), ?_, ?_, ?_⟩
  · simp [quote]
  · exact scanText_quote key _
  · rcases render_head maxDigits value printed with ⟨c, text, head, opening⟩
    rw [head, List.cons_append]
    exact skipSpace_opening c _ opening

theorem members_read_back (member : String × Json F) (members : Members F)
    (printed : printableMembers maxDigits (member :: members) = true)
    (values : ∀ each ∈ member :: members, ReadsBack maxDigits each.2) (fuel : Nat)
    (rest : List Char) (enough : 2 * (renderMembers (member :: members)).length + 1 ≤ fuel) :
    readMembers maxDigits fuel (renderMembers (member :: members) ++ rest) =
      some (member :: members, rest) := by
  induction members generalizing member fuel with
  | nil =>
    cases fuel with
    | zero => omega
    | succ fuel =>
      rcases member with ⟨key, value⟩
      simp only [printableMembers, Bool.and_eq_true] at printed
      simp only [renderMembers, renderMoreMembers, List.length_append, List.length_cons,
        List.length_nil] at enough
      have first := values (key, value) (.head _) fuel ('}' :: rest)
        (by simp only; omega) (boundary_cons _ _ (by simp))
      rcases key_read_back maxDigits key value ('}' :: rest) printed.1 with
        ⟨body, shape, scanned, spaced⟩
      simp only [renderMembers, renderMoreMembers, List.append_assoc, List.cons_append,
        List.nil_append]
      rw [shape, readMembers]
      simp [scanned, skipSpace_symbol, spaced, first]
  | cons next members ih =>
    cases fuel with
    | zero => omega
    | succ fuel =>
      rcases member with ⟨key, value⟩
      rcases next with ⟨nextKey, nextValue⟩
      simp only [printableMembers, Bool.and_eq_true] at printed
      have shape : renderMoreMembers ((nextKey, nextValue) :: members) =
          ',' :: renderMembers ((nextKey, nextValue) :: members) := rfl
      rw [renderMembers, shape] at enough
      simp only [List.length_append, List.length_cons] at enough
      have first := values (key, value) (.head _) fuel
        (',' :: (renderMembers ((nextKey, nextValue) :: members) ++ rest))
        (by simp only; omega) (boundary_cons _ _ (by simp))
      have later := ih (nextKey, nextValue) (by simp [printableMembers, printed])
        (fun each present => values each (.tail _ present)) fuel (by omega)
      have quoted : skipSpace (renderMembers ((nextKey, nextValue) :: members) ++ rest) =
          renderMembers ((nextKey, nextValue) :: members) ++ rest := by
        simp only [renderMembers, quote, List.cons_append]
        exact skipSpace_opening '"' _ (by unfold Opening; decide)
      rcases key_read_back maxDigits key value
          (',' :: (renderMembers ((nextKey, nextValue) :: members) ++ rest)) printed.1 with
        ⟨body, text, scanned, spaced⟩
      rw [renderMembers, shape]
      simp only [List.append_assoc, List.cons_append]
      rw [text, readMembers]
      simp [scanned, skipSpace_symbol, spaced, first, quoted, later]

theorem value_read_back (json : Json F)
    (printed : printable maxDigits json = true) (distinct : DistinctKeys json) :
    ReadsBack maxDigits json := by
  induction json using Json.induct with
  | null =>
    intro fuel rest enough boundary
    cases fuel with
    | zero => simp [render] at enough
    | succ fuel => rfl
  | bool value =>
    intro fuel rest enough boundary
    cases fuel with
    | zero => cases value <;> simp [render] at enough
    | succ fuel => cases value <;> rfl
  | int value =>
    intro fuel rest enough boundary
    rcases render_head maxDigits (.int value : Json F) printed with ⟨c, tail, head, _⟩
    cases fuel with
    | zero => simp [head] at enough
    | succ fuel =>
      have short : (Nat.toDigits 10 value.natAbs).length ≤ maxDigits := by
        simpa [printable] using printed
      have text := readValue_number maxDigits fuel _ _ [] [] rest (int_literal value) boundary
        (Json.int value : Json F) (int_token_value maxDigits value short)
      simpa only [render, List.nil_append, ← List.append_assoc, ← intText_eq] using text
  | float value =>
    intro fuel rest enough boundary
    rcases LawfulFloatText.literal value printed with
      ⟨sign, whole, fraction, exponent, literal, floating, shape⟩
    have denotes : (NumberToken.mk sign whole fraction exponent).value maxDigits =
        some (.float value : Json F) := by
      have same := LawfulFloatText.read_render value printed
      rw [shape] at same
      rw [NumberToken.value, if_neg (by tauto), same, Option.map_some]
    rcases render_head maxDigits (.float value : Json F) printed with ⟨c, tail, head, _⟩
    cases fuel with
    | zero => simp [head] at enough
    | succ fuel =>
      have text := readValue_number maxDigits fuel sign whole fraction exponent rest literal
        boundary _ denotes
      simpa only [render, shape, List.append_assoc] using text
  | str text =>
    intro fuel rest enough boundary
    cases fuel with
    | zero => simp [render, quote] at enough
    | succ fuel =>
      simp [render, quote, readValue, scanText_quote]
  | arr items ih =>
    intro fuel rest enough boundary
    simp only [render, List.length_cons] at enough
    simp only [printable, printableItems_iff] at printed
    simp only [DistinctKeys, distinctItems_iff] at distinct
    cases fuel with
    | zero => omega
    | succ fuel =>
      cases items with
      | nil => simp [render, renderItems, readValue, skipSpace]
      | cons item items =>
        rcases render_head maxDigits item (printed item (.head _)) with
          ⟨c, tail, head, opening⟩
        have read := items_read_back maxDigits item items
          ((printableItems_iff maxDigits _).mpr printed)
          (fun each member => ih each member (printed each member) (distinct each member))
          fuel rest (by omega)
        have start : renderItems (item :: items) ++ rest =
            c :: (tail ++ (renderMoreItems items ++ rest)) := by
          simp [renderItems, head]
        have closing := (opening_not_space c opening).2.1
        rw [start] at read
        simp only [render, List.cons_append, start, readValue]
        rw [skipSpace_opening c _ opening]
        simp [read, closing]
  | obj members ih =>
    intro fuel rest enough boundary
    simp only [render, List.length_cons] at enough
    simp only [printable, printableMembers_iff] at printed
    simp only [DistinctKeys, distinctMembers_iff] at distinct
    cases fuel with
    | zero => omega
    | succ fuel =>
      cases members with
      | nil => simp [render, renderMembers, readValue, skipSpace]
      | cons member members =>
        have read := members_read_back maxDigits member members
          ((printableMembers_iff maxDigits _).mpr printed)
          (fun each present => ih each present (printed each present)
            (distinct.2 each present)) fuel rest (by omega)
        rcases member with ⟨key, value⟩
        obtain ⟨body, start⟩ : ∃ body,
            renderMembers ((key, value) :: members) ++ rest = '"' :: body := by
          simp [renderMembers, quote]
        rw [start] at read
        simp only [render, List.cons_append, start, readValue]
        rw [skipSpace_opening '"' _ (by unfold Opening; decide)]
        simpa [read] using distinct.1

theorem loads_render (json : Json F) (space : List Char)
    (printed : printable maxDigits json = true) (distinct : DistinctKeys json)
    (blank : skipSpace space = []) (boundary : Boundary space) :
    loads maxDigits (render json ++ space) = some json := by
  rcases render_head maxDigits json printed with ⟨c, tail, head, opening⟩
  have start : skipSpace (render json ++ space) = render json ++ space := by
    rw [head, List.cons_append]
    exact skipSpace_opening c _ opening
  have read := value_read_back maxDigits json printed distinct
    (2 * (render json ++ space).length + 2) space (by simp; omega) boundary
  unfold loads
  rw [start, read]
  simp [blank]

end DosWeb.Library.JsonRoundTrip
