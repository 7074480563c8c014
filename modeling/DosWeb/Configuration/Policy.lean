import DosWeb.Growth.Evidence
import DosWeb.Library.Decimal
import DosWeb.Library.Segments
import Mathlib

/-!
The values of modelled configuration keys, and which of them the consumers of integers accept.
-/

namespace DosWeb.Configuration

open Library
open Growth (maxConfigInteger)
open Reachability (ConfigurationValue)

/-- A value as a configuration file or an override gives it. -/
inductive RawValue where
  | flag (value : Bool)
  | integer (value : Int)
  | text (value : String)
  | other

def safeEnums : List String :=
  ["enabled", "disabled", "finite", "unbounded", "none", "anonymous", "authenticated", "permitall",
    "denyall", "true", "false"]

def sizeUnits : List (String × Nat) :=
  [("b", 1), ("kb", 1000), ("kib", 1024), ("mb", 1000 ^ 2), ("mib", 1024 ^ 2), ("gb", 1000 ^ 3),
    ("gib", 1024 ^ 3)]

def timeUnits : List (String × Nat) := [("ms", 1), ("s", 1000), ("min", 60000), ("h", 3600000)]

/-- A value that is looked at: filled, without NUL or placeholder, and not too long. -/
def readable (text : List Char) : Bool :=
  decide (text ≠ []) && !text.contains (Char.ofNat 0) && !decide (['$', '{'] <:+: text) &&
    !decide (['{', '{'] <:+: text) && decide ((Text.utf8 text).length ≤ 1024)

def nameChar (c : Char) : Bool := c.isAlphanum || c = '_' || c = '.' || c = '-'

/-- The names of a list with commas between them and white space around the commas. -/
def profileNames (text : List Char) : Option (List (List Char)) :=
  let names := (text.splitOn ',').map Text.strip
  if names.all fun name => decide (name ≠ []) && name.all nameChar then some names else none

/-- The integer of decimal digits with an optional minus. -/
def decimalOf (text : List Char) : Option Int :=
  match text with
  | '-' :: digits =>
    if digits ≠ [] ∧ digits.all Char.isDigit then some (-(Decimal.value digits : Int)) else none
  | digits =>
    if digits ≠ [] ∧ digits.all Char.isDigit then some (Decimal.value digits : Int) else none

def amountOf (lowered : List Char) : Option (Nat × String) :=
  let digits := lowered.takeWhile Char.isDigit
  if digits = [] then none
  else some (Decimal.value digits,
    String.ofList ((lowered.dropWhile Char.isDigit).dropWhile Text.isSpace))

section

variable (lower : String → String) (key : String)

/-- What one of a unit is worth: of a size for every key, of a time for timeouts only. -/
def multiplierOf (unit : String) : Option Nat :=
  match sizeUnits.lookup unit with
  | some multiplier => some multiplier
  | none =>
    if "timeout".toList <:+: (lower key).toList then timeUnits.lookup unit else none

def normalizeText (text : List Char) : Option ConfigurationValue :=
  let lowered := lower (String.ofList text)
  match if lower key = "spring.profiles.active" then profileNames text else none with
  | some names => some (.text (String.ofList (Segments.joined ',' names)))
  | none =>
    if lowered = "true" ∨ lowered = "false" then some (.flag (lowered = "true"))
    else
      match decimalOf text with
      | some value => some (.integer value)
      | none =>
        if lowered ∈ safeEnums then some (.text lowered)
        else do
          let (amount, unit) ← amountOf lowered.toList
          let multiplier ← multiplierOf lower key unit
          if (amount * multiplier : Nat) ≤ maxConfigInteger then
            some (.integer (amount * multiplier : Nat))
          else none

def normalizeModeledValue : RawValue → Option ConfigurationValue
  | .flag value => some (.flag value)
  | .integer value => some (.integer value)
  | .text value =>
    if readable (Text.strip value.toList) then normalizeText lower key (Text.strip value.toList)
    else none
  | .other => none

/-- A normalized value as it is given to the policy again. -/
def rawOf : ConfigurationValue → RawValue
  | .text value => .text value
  | .integer value => .integer value
  | .flag value => .flag value

def Fits (value : Int) : Prop := -maxConfigInteger ≤ value ∧ value ≤ maxConfigInteger

/-- A raw value is modelled soundly: what comes out comes out of itself again and, as an integer,
fits. -/
def Sound (raw : RawValue) : Prop := ∀ value, normalizeModeledValue lower key raw = some value →
    normalizeModeledValue lower key (rawOf value) = some value ∧
      ∀ number, value = .integer number → Fits number

/-- A raw value is an integer that does not fit: given as one, or as its digits. -/
def Oversized (raw : RawValue) : Prop :=
  ∃ number, ¬ Fits number ∧ (raw = .integer number ∨ ∃ text, raw = .text text ∧
    readable (Text.strip text.toList) = true ∧ decimalOf (Text.strip text.toList) = some number ∧
    (lower key = "spring.profiles.active" → profileNames (Text.strip text.toList) = none))

/-- A text whose lower-case form is an amount with a unit that the key knows. -/
def Measured (raw : RawValue) (amount multiplier : Nat) : Prop :=
  ∃ text digits spaces unit, raw = .text text ∧ readable (Text.strip text.toList) = true ∧
    (lower key = "spring.profiles.active" → profileNames (Text.strip text.toList) = none) ∧
    (lower (String.ofList (Text.strip text.toList))).toList = digits ++ spaces ++ unit ∧
    digits ≠ [] ∧ Decimal.Digits digits ∧ (∀ c ∈ spaces, Text.isSpace c = true) ∧
    amount = Decimal.value digits ∧ multiplierOf lower key (String.ofList unit) = some multiplier

end

section

theorem solid_visible (c : Char) (least : 33 ≤ c.toNat) (most : c.toNat ≤ 126) :
    Text.isSpace c = false := by
  simp only [Text.isSpace, Text.numberSpace, Bool.or_eq_false_iff, Bool.and_eq_false_iff,
    decide_eq_false_iff_not, List.contains_eq_mem, List.mem_cons, List.not_mem_nil, or_false]
  omega

theorem name_plain (c : Char) (name : nameChar c = true) :
    Text.isSpace c = false ∧ c ≠ ',' ∧ c.toNat < 128 ∧ c ≠ Char.ofNat 0 ∧ c ≠ '$' ∧ c ≠ '{' := by
  have bounds : 45 ≤ c.toNat ∧ c.toNat ≤ 122 := by
    simp only [nameChar, Char.isAlphanum, Char.isAlpha, Char.isUpper, Char.isLower, Char.isDigit,
      Bool.or_eq_true, Bool.and_eq_true, decide_eq_true_eq, UInt32.le_iff_toNat_le] at name
    rcases name with (((name | rfl) | rfl) | rfl)
    · change ((65 ≤ c.toNat ∧ c.toNat ≤ 90) ∨ (97 ≤ c.toNat ∧ c.toNat ≤ 122)) ∨
        (48 ≤ c.toNat ∧ c.toNat ≤ 57) at name
      omega
    · decide
    · decide
    · decide
  have apart (d : Char) (out : d.toNat < 45 ∨ 122 < d.toNat) : c ≠ d := by
    rintro rfl
    omega
  exact ⟨solid_visible c (by omega) (by omega), apart _ (by decide), by omega, apart _ (by decide),
    apart _ (by decide), apart _ (by decide)⟩

variable (text : List Char)

theorem strip_plain (plain : ∀ c ∈ text, Text.isSpace c = false) : Text.strip text = text := by
  have front (own : List Char) (all : ∀ c ∈ own, Text.isSpace c = false) :
      own.dropWhile Text.isSpace = own := by
    cases own with
    | nil => rfl
    | cons c rest => rw [List.dropWhile_cons, all c (.head _)]; rfl
  rw [Text.strip, front text plain, front, List.reverse_reverse]
  exact fun c member => plain c (List.mem_reverse.mp member)

theorem joined_map_length (shorten : List Char → List Char)
    (shorter : ∀ part, (shorten part).length ≤ part.length) (parts : List (List Char)) :
    (Segments.joined ',' (parts.map shorten)).length ≤ (Segments.joined ',' parts).length := by
  induction parts with
  | nil => exact le_refl _
  | cons part parts ih =>
    by_cases last : parts = []
    · subst last
      simpa [Segments.joined] using shorter part
    · rw [List.map_cons, Segments.joined_cons _ _ _ (by simpa using last),
        Segments.joined_cons _ _ _ last]
      simp only [List.length_append, List.length_cons]
      have own := shorter part
      omega

theorem strip_length : (Text.strip text).length ≤ text.length := by
  rw [Text.strip, List.length_reverse]
  calc
    _ ≤ (text.dropWhile Text.isSpace).reverse.length := (List.dropWhile_sublist _).length_le
    _ ≤ text.length := by
      rw [List.length_reverse]
      exact (List.dropWhile_sublist _).length_le

theorem utf8_longer : text.length ≤ (Text.utf8 text).length := by
  induction text with
  | nil => exact Nat.zero_le _
  | cons c text ih =>
    have own : 1 ≤ (String.utf8EncodeChar c).length := by
      rw [String.length_utf8EncodeChar]
      exact c.utf8Size_pos
    simp only [Text.utf8, List.flatMap_cons, List.length_append, List.length_cons] at ih ⊢
    omega

theorem names_joined (names : List (List Char)) (read : readable text = true)
    (found : profileNames text = some names) :
    Text.strip (Segments.joined ',' names) = Segments.joined ',' names ∧
      readable (Segments.joined ',' names) = true ∧
      profileNames (Segments.joined ',' names) = some names := by
  dsimp only [profileNames] at found
  split at found
  swap
  · cases found
  rename_i all
  obtain rfl := Option.some_inj.mp found
  have each : ∀ name ∈ (text.splitOn ',').map Text.strip, name ≠ [] ∧
      ∀ c ∈ name, nameChar c = true := by
    intro name member
    have own := List.all_eq_true.mp all name member
    rw [Bool.and_eq_true, decide_eq_true_eq, List.all_eq_true] at own
    exact own
  have some_ : (text.splitOn ',').map Text.strip ≠ [] := by
    simp [List.splitOn_ne_nil]
  have length := joined_map_length Text.strip strip_length (text.splitOn ',')
  rw [Segments.joined, Segments.joined, List.intercalate_splitOn] at length
  change (Segments.joined ',' _).length ≤ _ at length
  generalize (text.splitOn ',').map Text.strip = names at all each some_ length ⊢
  have chars : ∀ c ∈ Segments.joined ',' names, c = ',' ∨ nameChar c = true := by
    intro c member
    rcases Segments.mem_joined ',' names c member with same | ⟨name, inside, own⟩
    · exact Or.inl same
    · exact Or.inr ((each name inside).2 c own)
  have plain : ∀ c ∈ Segments.joined ',' names, Text.isSpace c = false ∧ c.toNat < 128 ∧
      c ≠ Char.ofNat 0 ∧ c ≠ '$' ∧ c ≠ '{' := by
    intro c member
    rcases chars c member with rfl | name
    · decide
    · have own := name_plain c name
      exact ⟨own.1, own.2.2.1, own.2.2.2⟩
  have again : (Segments.joined ',' names).splitOn ',' = names := by
    apply List.splitOn_intercalate
    · intro name inside comma
      exact (name_plain ',' ((each name inside).2 ',' comma)).2.1 rfl
    · exact some_
  refine ⟨strip_plain _ fun c member => (plain c member).1, ?_, ?_⟩
  · have short : (Text.utf8 (Segments.joined ',' names)).length ≤ 1024 := by
      rw [Text.utf8_length_ascii _ fun c member => (plain c member).2.1]
      simp only [readable, Bool.and_eq_true, decide_eq_true_eq] at read
      have long := utf8_longer text
      omega
    have without (c : Char) (marker : List Char) (inside : c ∈ marker)
        (never : ∀ d ∈ Segments.joined ',' names, d ≠ c) :
        ¬ marker <:+: Segments.joined ',' names :=
      fun found => never c (found.subset inside) rfl
    have filled : Segments.joined ',' names ≠ [] := by
      intro empty
      rw [empty, List.splitOn_nil] at again
      exact (each [] (again ▸ List.mem_singleton_self [])).1 rfl
    simp only [readable, Bool.and_eq_true, Bool.not_eq_true', decide_eq_true_eq,
      decide_eq_false_iff_not, List.contains_eq_mem]
    refine ⟨⟨⟨⟨filled, fun nul => (plain _ nul).2.2.1 rfl⟩, ?_⟩, ?_⟩, short⟩
    · exact without '$' _ (.head _) fun d member => (plain d member).2.2.2.1
    · exact without '{' _ (.head _) fun d member => (plain d member).2.2.2.2
  · rw [profileNames, again]
    have same : names.map Text.strip = names := by
      rw [List.map_congr_left fun name inside => strip_plain name fun c member =>
        (name_plain c ((each name inside).2 c member)).1]
      exact List.map_id names
    rw [same, if_pos all]

end

section

/-- Texts in ASCII are taken to lower case letter by letter. -/
def AsciiLower (lower : String → String) : Prop :=
  ∀ text : String, (∀ c ∈ text.toList, c.toNat < 128) → lower text = Text.lowerAscii text

variable (lower : String → String) (plain : AsciiLower lower) (key : String)

theorem decimal_chars (text : List Char) (number : Int) (found : decimalOf text = some number) :
    text ≠ [] ∧ ∀ c ∈ text, c.isDigit = true ∨ c = '-' := by
  unfold decimalOf at found
  split at found
  · rename_i digits
    split at found
    · rename_i held
      refine ⟨List.cons_ne_nil _ _, ?_⟩
      intro c member
      rcases List.mem_cons.mp member with rfl | own
      · exact Or.inr rfl
      · exact Or.inl (List.all_eq_true.mp held.2 c own)
    · cases found
  · split at found
    · rename_i held
      exact ⟨held.1, fun c member => Or.inl (List.all_eq_true.mp held.2 c member)⟩
    · cases found

include plain in
theorem decimal_lower (text : List Char) (number : Int) (found : decimalOf text = some number) :
    lower (String.ofList text) = String.ofList text := by
  have chars := (decimal_chars text number found).2
  have small (c : Char) (own : c.isDigit = true ∨ c = '-') : c.toNat < 128 ∧ c.toLower = c := by
    rcases own with digit | rfl
    · have bounds := Decimal.digit_bounds c digit
      refine ⟨by omega, ?_⟩
      have lowerCase : ¬ (c.val ≥ 65 ∧ c.val ≤ 90) := by
        simp only [ge_iff_le, UInt32.le_iff_toNat_le]
        change ¬ (65 ≤ c.toNat ∧ c.toNat ≤ 90)
        omega
      simp [Char.toLower, lowerCase]
    · decide
  rw [plain _ (by simpa using fun c member => (small c (chars c member)).1), Text.lowerAscii,
    String.toList_ofList]
  congr 1
  calc
    text.map Char.toLower = text.map id :=
      List.map_congr_left fun c member => (small c (chars c member)).2
    _ = text := List.map_id text

def settled (text : String) : Bool :=
  decide (Text.strip text.toList = text.toList) && readable text.toList &&
    decide (profileNames text.toList = some [text.toList]) &&
    decide (decimalOf text.toList = none) && text.toList.all (fun c => decide (c.toNat < 128)) &&
    decide (Text.lowerAscii text = text)

theorem enums_settled : ∀ text ∈ safeEnums, settled text = true := by
  decide +kernel

include plain in
theorem enum_fixed (text : String) (known : text ∈ safeEnums)
    (other : ¬ (text = "true" ∨ text = "false")) :
    normalizeModeledValue lower key (.text text) = some (.text text) := by
  have own := enums_settled text known
  simp only [settled, Bool.and_eq_true, decide_eq_true_eq, List.all_eq_true] at own
  obtain ⟨⟨⟨⟨⟨stripped, read⟩, names⟩, whole⟩, ascii⟩, same⟩ := own
  have lowered : lower (String.ofList text.toList) = text := by
    rw [String.ofList_toList, plain text ascii, same]
  rw [normalizeModeledValue, stripped, if_pos read, normalizeText, names, lowered, whole]
  split
  · rename_i found
    split at found
    · cases found
      simp [Segments.joined]
    · cases found
  · simp only [if_neg other, if_pos known]

include plain in
theorem lowered_digits (text : List Char) (number : Int) (found : decimalOf text = some number) :
    ¬ (lower (String.ofList text) = "true" ∨ lower (String.ofList text) = "false") := by
  rw [decimal_lower lower plain text number found]
  have chars := (decimal_chars text number found).2
  have never (word : String) (c : Char) (inside : c ∈ word.toList) (letter : c.isDigit = false)
      (other : c ≠ '-') : String.ofList text ≠ word := by
    intro same
    have own := chars c (by rwa [← same, String.toList_ofList] at inside)
    simp [letter, other] at own
  exact not_or.mpr ⟨never _ 't' (by decide) (by decide) (by decide),
    never _ 'f' (by decide) (by decide) (by decide)⟩

theorem unit_head (unit : String) (multiplier : Nat)
    (known : multiplierOf lower key unit = some multiplier) :
    ∃ c rest, unit.toList = c :: rest ∧ c.isDigit = false ∧ Text.isSpace c = false ∧ c ≠ '-' := by
  have letters : ∀ word ∈ sizeUnits.map Prod.fst ++ timeUnits.map Prod.fst, ∃ c rest,
      word.toList = c :: rest ∧ c.isDigit = false ∧ Text.isSpace c = false ∧ c ≠ '-' := by
    have all : ∀ word ∈ sizeUnits.map Prod.fst ++ timeUnits.map Prod.fst,
        word.toList.head?.any (fun c => !c.isDigit && !Text.isSpace c && c != '-') = true := by
      decide +kernel
    intro word member
    have own := all word member
    cases held : word.toList with
    | nil => rw [held] at own; cases own
    | cons c rest =>
      rw [held] at own
      simp only [List.head?_cons, Option.any_some, Bool.and_eq_true, Bool.not_eq_true',
        bne_iff_ne] at own
      exact ⟨c, rest, rfl, own.1.1, own.1.2, own.2⟩
  apply letters
  have inside (table : List (String × Nat)) (value : Nat) (found : table.lookup unit = some value) :
      unit ∈ table.map Prod.fst := by
    obtain ⟨before, after, same, -⟩ := List.lookup_eq_some_iff.mp found
    simp [same]
  unfold multiplierOf at known
  split at known
  · rename_i value found
    exact List.mem_append_left _ (inside _ value found)
  · split at known
    · exact List.mem_append_right _ (inside _ multiplier known)
    · cases known

end

variable (lower : String → String) (plain : AsciiLower lower) (key : String)

inductive TextCase (text : List Char) : ConfigurationValue → Prop where
  | names (names : List (List Char)) (found : profileNames text = some names)
      (own : lower key = "spring.profiles.active") :
      TextCase text (.text (String.ofList (Segments.joined ',' names)))
  | flag (value : Bool) : TextCase text (.flag value)
  | whole (number : Int) (found : decimalOf text = some number)
      (other : lower key = "spring.profiles.active" → profileNames text = none) :
      TextCase text (.integer number)
  | word (word : String) (known : word ∈ safeEnums) (other : ¬ (word = "true" ∨ word = "false")) :
      TextCase text (.text word)
  | amount (number : Int) (fits : Fits number) : TextCase text (.integer number)

theorem text_case (text : List Char) (value : ConfigurationValue)
    (made : normalizeText lower key text = some value) : TextCase lower key text value := by
  unfold normalizeText at made
  dsimp only at made
  split at made
  · rename_i names found
    split at found
    · rename_i own
      cases made
      exact .names names found own
    · cases found
  · rename_i nothing
    have other (own : lower key = "spring.profiles.active") : profileNames text = none := by
      rwa [if_pos own] at nothing
    split at made
    · cases made
      exact .flag _
    · rename_i word
      split at made
      · rename_i number found
        cases made
        exact .whole number found other
      · split at made
        · rename_i known
          cases made
          exact .word _ known word
        · obtain ⟨⟨amount, unit⟩, -, rest⟩ := Option.bind_eq_some_iff.mp made
          obtain ⟨multiplier, -, last⟩ := Option.bind_eq_some_iff.mp rest
          split at last
          · rename_i small
            cases last
            refine .amount _ ⟨?_, small⟩
            have least : -maxConfigInteger ≤ 0 := by decide
            omega
          · cases last

include plain in
theorem whole_normalized (text : List Char) (number : Int) (found : decimalOf text = some number)
    (other : lower key = "spring.profiles.active" → profileNames text = none) :
    normalizeText lower key text = some (.integer number) := by
  have nothing : (if lower key = "spring.profiles.active" then profileNames text else none) =
      none := by
    split
    · exact other ‹_›
    · rfl
  rw [normalizeText, nothing]
  simp only [if_neg (lowered_digits lower plain text number found), found]

include plain in
theorem sound_iff (raw : RawValue) : Sound lower key raw ↔ ¬ Oversized lower key raw := by
  unfold Sound
  cases raw with
  | flag value =>
    refine iff_of_true ?_ ?_
    · intro own same
      cases same
      exact ⟨rfl, nofun⟩
    · rintro ⟨number, -, same | ⟨text, same, -⟩⟩ <;> cases same
  | other => exact iff_of_true nofun (by rintro ⟨number, -, same | ⟨text, same, -⟩⟩ <;> cases same)
  | integer number =>
    constructor
    · rintro sound ⟨large, out, same | ⟨text, same, -⟩⟩
      · cases same
        exact out ((sound _ rfl).2 _ rfl)
      · cases same
    · intro small own same
      cases same
      refine ⟨rfl, fun other equal => ?_⟩
      cases equal
      exact not_not.mp fun out => small ⟨_, out, Or.inl rfl⟩
  | text raw =>
    rw [normalizeModeledValue]
    constructor
    · rintro sound ⟨number, out, same | ⟨text, same, read, found, other⟩⟩
      · cases same
      · cases same
        rw [if_pos read, whole_normalized lower plain key _ number found other] at sound
        exact out ((sound _ rfl).2 _ rfl)
    · intro small value made
      split at made
      swap
      · cases made
      rename_i read
      cases text_case lower key _ value made with
      | names names found own =>
        obtain ⟨stripped, again, same⟩ := names_joined _ names read found
        refine ⟨?_, nofun⟩
        rw [rawOf, normalizeModeledValue, String.toList_ofList, stripped, if_pos again,
          normalizeText, if_pos own, same]
      | flag value => exact ⟨rfl, nofun⟩
      | whole number found other =>
        refine ⟨rfl, fun held equal => ?_⟩
        cases equal
        exact not_not.mp fun out =>
          small ⟨number, out, Or.inr ⟨raw, rfl, read, found, other⟩⟩
      | word word known other => exact ⟨enum_fixed lower plain key word known other, nofun⟩
      | amount number fits =>
        refine ⟨rfl, fun held equal => ?_⟩
        cases equal
        exact fits

theorem amount_read (digits spaces unit : List Char) (filled : digits ≠ [])
    (own : Decimal.Digits digits) (white : ∀ c ∈ spaces, Text.isSpace c = true)
    (head : ∃ c rest, unit = c :: rest ∧ c.isDigit = false ∧ Text.isSpace c = false) :
    amountOf (digits ++ spaces ++ unit) = some (Decimal.value digits, String.ofList unit) := by
  obtain ⟨c, rest, rfl, letter, solid⟩ := head
  have undigit (d : Char) (space : Text.isSpace d = true) : d.isDigit = false := by
    cases digit : d.isDigit with
    | false => rfl
    | true =>
      have bounds := Decimal.digit_bounds d digit
      rw [solid_visible d (by omega) (by omega)] at space
      cases space
  have stop : (spaces ++ c :: rest).takeWhile Char.isDigit = [] ∧
      (spaces ++ c :: rest).dropWhile Char.isDigit = spaces ++ c :: rest := by
    cases spaces with
    | nil => simp [letter]
    | cons d spaces => simp [undigit d (white d (.head _))]
  have spaced : (spaces ++ c :: rest).dropWhile Text.isSpace = c :: rest := by
    rw [List.dropWhile_append_of_pos white, List.dropWhile_cons, solid]
    rfl
  rw [amountOf, List.append_assoc, List.takeWhile_append_of_pos own, stop.1, List.append_nil,
    if_neg filled, List.dropWhile_append_of_pos own, stop.2, spaced]

include plain in
theorem measured_exact (raw : RawValue) (amount multiplier : Nat)
    (measured : Measured lower key raw amount multiplier)
    (small : (amount * multiplier : Nat) ≤ maxConfigInteger) :
    normalizeModeledValue lower key raw = some (.integer (amount * multiplier : Nat)) := by
  obtain ⟨text, digits, spaces, unit, rfl, read, other, lowered, filled, own, white, rfl, known⟩ :=
    measured
  obtain ⟨c, rest, head, letter, solid, dash⟩ := unit_head lower key _ multiplier known
  rw [String.toList_ofList] at head
  have nothing : (if lower key = "spring.profiles.active" then
      profileNames (Text.strip text.toList) else none) = none := by
    split
    · exact other ‹_›
    · rfl
  have first : ∃ d rest, (lower (String.ofList (Text.strip text.toList))).toList = d :: rest ∧
      d.isDigit = true := by
    cases digits with
    | nil => exact absurd rfl filled
    | cons d digits => exact ⟨d, _, lowered, own d (.head _)⟩
  have worded : ∀ word ∈ safeEnums, lower (String.ofList (Text.strip text.toList)) ≠ word := by
    have starts : ∀ word ∈ safeEnums, word.toList.head?.any Char.isDigit = false := by
      decide +kernel
    intro word member same
    obtain ⟨d, rest, begins, digit⟩ := first
    have never := starts word member
    rw [← same, begins, List.head?_cons, Option.any_some, digit] at never
    cases never
  have undecimal : decimalOf (Text.strip text.toList) = none := by
    cases found : decimalOf (Text.strip text.toList) with
    | none => rfl
    | some number =>
      have same := decimal_lower lower plain _ number found
      rw [same, String.toList_ofList] at lowered
      have inside : c ∈ Text.strip text.toList := by
        rw [lowered, head]
        simp
      have own := (decimal_chars _ number found).2 c inside
      simp [letter, dash] at own
  have truth : ¬ (lower (String.ofList (Text.strip text.toList)) = "true" ∨
      lower (String.ofList (Text.strip text.toList)) = "false") :=
    not_or.mpr ⟨worded _ (by decide), worded _ (by decide)⟩
  rw [normalizeModeledValue, if_pos read, normalizeText, nothing]
  simp only [if_neg truth, undecimal, if_neg fun listed => worded _ listed rfl]
  rw [lowered, amount_read digits spaces unit filled own white ⟨c, rest, head, letter, solid⟩]
  simp only [Option.bind_eq_bind, Option.bind_some, known, if_pos small]

/-- Values are modelled soundly except for integers that do not fit, and amounts are converted
exactly. -/
theorem policy_law (lower : String → String) (plain : AsciiLower lower) (key : String)
    (raw : RawValue) : (Sound lower key raw ↔ ¬ Oversized lower key raw) ∧
      ∀ amount multiplier, Measured lower key raw amount multiplier →
        (amount * multiplier : Nat) ≤ maxConfigInteger →
          normalizeModeledValue lower key raw = some (.integer (amount * multiplier : Nat)) :=
  ⟨sound_iff lower plain key raw, measured_exact lower plain key raw⟩

theorem lower_ascii : AsciiLower Text.lowerAscii := fun _ _ => rfl

theorem policy_law_sized : (Sound Text.lowerAscii "server.max-size" (.text "16 KiB") ↔
      ¬ Oversized Text.lowerAscii "server.max-size" (.text "16 KiB")) ∧
    normalizeModeledValue Text.lowerAscii "server.max-size" (.text "16 KiB") =
      some (.integer 16384) := by
  have law := policy_law Text.lowerAscii lower_ascii "server.max-size" (.text "16 KiB")
  have white : ∀ c ∈ [' '], Text.isSpace c = true := by
    intro c inside
    rw [List.mem_singleton.mp inside]
    decide +kernel
  refine ⟨law.1, law.2 16 1024 ?_ (by decide)⟩
  exact ⟨"16 KiB", ['1', '6'], [' '], ['k', 'i', 'b'], rfl, by decide +kernel, by decide +kernel,
    by decide +kernel, by decide, by simp [Decimal.Digits], white, by decide, by decide +kernel⟩

/-- The digits of an integer that no fact takes come out as that integer. -/
theorem large_limit_modeled : ¬ ∀ (lower : String → String) (_ : AsciiLower lower) (key : String)
    (raw : RawValue), Sound lower key raw := by
  intro sound
  have large : normalizeModeledValue Text.lowerAscii "server.max-size"
      (.text "9223372036854775808") = some (.integer 9223372036854775808) := by
    decide +kernel
  have fits := (sound _ lower_ascii _ _ _ large).2 _ rfl
  exact absurd fits.2 (by decide)

end DosWeb.Configuration
