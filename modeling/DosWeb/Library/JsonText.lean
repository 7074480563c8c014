import DosWeb.Library.Hex
import DosWeb.Library.JsonValue

/-!
The compact text of a JSON value and a reader of JSON texts: the reader gives a
rendered value back.
-/

namespace DosWeb.Library.JsonText

open Library.JsonValue

/-- The text of a floating-point number, and the number that a literal denotes. -/
class FloatText (F : Type) where
  finite : F → Bool
  render : F → List Char
  read : List Char → Option F

/-- Values without floating-point numbers. -/
instance : FloatText Empty := ⟨Empty.elim, Empty.elim, fun _ => none⟩

def Digits (text : List Char) : Prop := text ≠ [] ∧ ∀ c ∈ text, c.isDigit = true

/-- A run of digits without a superfluous leading zero. -/
def WholeLiteral (text : List Char) : Prop :=
  text = ['0'] ∨ ∃ first digits, text = first :: digits ∧ first.isDigit = true ∧ first ≠ '0' ∧
    ∀ c ∈ digits, c.isDigit = true

def FractionLiteral (text : List Char) : Prop :=
  text = [] ∨ ∃ digits, Digits digits ∧ text = '.' :: digits

def ExponentLiteral (text : List Char) : Prop :=
  text = [] ∨ ∃ mark sign digits, (mark = 'e' ∨ mark = 'E') ∧
    (sign = [] ∨ sign = ['+'] ∨ sign = ['-']) ∧ Digits digits ∧ text = mark :: (sign ++ digits)

structure NumberLiteral (sign whole fraction exponent : List Char) : Prop where
  sign : sign = [] ∨ sign = ['-']
  whole : WholeLiteral whole
  fraction : FractionLiteral fraction
  exponent : ExponentLiteral exponent

/-- A literal that JSON reads as a floating-point number. -/
def FloatLiteral (text : List Char) : Prop :=
  ∃ sign whole fraction exponent, NumberLiteral sign whole fraction exponent ∧
    (fraction ≠ [] ∨ exponent ≠ []) ∧ text = sign ++ (whole ++ (fraction ++ exponent))

/-- Finite numbers are written as literals that denote them. -/
class LawfulFloatText (F : Type) [FloatText F] : Prop where
  literal : ∀ value : F, FloatText.finite value = true → FloatLiteral (FloatText.render value)
  read_render : ∀ value : F, FloatText.finite value = true →
    FloatText.read (FloatText.render value) = some value

instance : LawfulFloatText Empty := ⟨Empty.rec, Empty.rec⟩

def escapeChar (c : Char) : List Char :=
  if c = '"' then ['\\', '"']
  else if c = '\\' then ['\\', '\\']
  else if c = '\n' then ['\\', 'n']
  else if c = '\r' then ['\\', 'r']
  else if c = '\t' then ['\\', 't']
  else if c = Char.ofNat 12 then ['\\', 'f']
  else if c = Char.ofNat 8 then ['\\', 'b']
  else if c.toNat < 32 then
    ['\\', 'u', '0', '0', hexDigit (c.toNat / 16), hexDigit (c.toNat % 16)]
  else [c]

def quote (text : String) : List Char := '"' :: (text.toList.flatMap escapeChar ++ ['"'])

def intText (value : Int) : List Char :=
  match value with
  | .ofNat magnitude => Nat.toDigits 10 magnitude
  | .negSucc below => '-' :: Nat.toDigits 10 (below + 1)

section

variable {F : Type} [FloatText F]

mutual

def render : Json F → List Char
  | .null => ['n', 'u', 'l', 'l']
  | .bool true => ['t', 'r', 'u', 'e']
  | .bool false => ['f', 'a', 'l', 's', 'e']
  | .int value => intText value
  | .float value => FloatText.render value
  | .str text => quote text
  | .arr items => '[' :: renderItems items
  | .obj members => '{' :: renderMembers members

def renderItems : List (Json F) → List Char
  | [] => [']']
  | item :: items => render item ++ renderMoreItems items

def renderMoreItems : List (Json F) → List Char
  | [] => [']']
  | item :: items => ',' :: (render item ++ renderMoreItems items)

def renderMembers : Members F → List Char
  | [] => ['}']
  | (key, value) :: members => quote key ++ ':' :: (render value ++ renderMoreMembers members)

def renderMoreMembers : Members F → List Char
  | [] => ['}']
  | (key, value) :: members =>
    ',' :: (quote key ++ ':' :: (render value ++ renderMoreMembers members))

end

mutual

/-- Every number of the value has a text: floats are finite, integers within the limit. -/
def printable (maxDigits : Nat) : Json F → Bool
  | .int value => (Nat.toDigits 10 value.natAbs).length ≤ maxDigits
  | .float value => FloatText.finite value
  | .arr items => printableItems maxDigits items
  | .obj members => printableMembers maxDigits members
  | _ => true

def printableItems (maxDigits : Nat) : List (Json F) → Bool
  | [] => true
  | item :: items => printable maxDigits item && printableItems maxDigits items

def printableMembers (maxDigits : Nat) : Members F → Bool
  | [] => true
  | (_, value) :: members => printable maxDigits value && printableMembers maxDigits members

end

end

/-! Scanning the tokens of a text. -/

def hexValue (c : Char) : Option Nat :=
  if c.isDigit then some (c.toNat - 48)
  else if 97 ≤ c.toNat ∧ c.toNat ≤ 102 then some (c.toNat - 87)
  else if 65 ≤ c.toNat ∧ c.toNat ≤ 70 then some (c.toNat - 55)
  else none

def hexUnit (a b c d : Char) : Option Nat := do
  let a ← hexValue a
  let b ← hexValue b
  let c ← hexValue c
  let d ← hexValue d
  return ((a * 16 + b) * 16 + c) * 16 + d

/-- The character after a backslash, where it stands for one character by itself. -/
def simpleEscape (c : Char) : Option Nat :=
  if c = '"' then some 34
  else if c = '\\' then some 92
  else if c = '/' then some 47
  else if c = 'b' then some 8
  else if c = 'f' then some 12
  else if c = 'n' then some 10
  else if c = 'r' then some 13
  else if c = 't' then some 9
  else none

/-- The code units of a string body up to the closing quote, and the text after it. -/
def scanUnits : List Char → Option (List Nat × List Char)
  | [] => none
  | '"' :: rest => some ([], rest)
  | '\\' :: 'u' :: a :: b :: c :: d :: rest => do
      let unit ← hexUnit a b c d
      let (units, rest) ← scanUnits rest
      return (unit :: units, rest)
  | '\\' :: c :: rest => do
      let unit ← simpleEscape c
      let (units, rest) ← scanUnits rest
      return (unit :: units, rest)
  | c :: rest =>
    if c.toNat < 32 ∨ c = '\\' then none
    else do
      let (units, rest) ← scanUnits rest
      return (c.toNat :: units, rest)

def highSurrogate (unit : Nat) : Bool := 0xD800 ≤ unit && unit ≤ 0xDBFF

def lowSurrogate (unit : Nat) : Bool := 0xDC00 ≤ unit && unit ≤ 0xDFFF

/-- Pairs of surrogates stand for one character; a lone one is no character of a text. -/
def decodeUnits : List Nat → Option (List Char)
  | [] => some []
  | high :: low :: units =>
    if highSurrogate high && lowSurrogate low then
      (decodeUnits units).map
        (Char.ofNat (0x10000 + (high - 0xD800) * 0x400 + (low - 0xDC00)) :: ·)
    else if highSurrogate high || lowSurrogate high then none
    else (decodeUnits (low :: units)).map (Char.ofNat high :: ·)
  | [unit] =>
    if highSurrogate unit || lowSurrogate unit then none else some [Char.ofNat unit]

def scanText (input : List Char) : Option (String × List Char) := do
  let (units, rest) ← scanUnits input
  let text ← decodeUnits units
  return (String.ofList text, rest)

def spanDigits : List Char → List Char × List Char
  | [] => ([], [])
  | c :: rest =>
    if c.isDigit then
      let (digits, rest) := spanDigits rest
      (c :: digits, rest)
    else ([], c :: rest)

def scanSign : List Char → List Char × List Char
  | '-' :: rest => (['-'], rest)
  | rest => ([], rest)

def scanWhole : List Char → Option (List Char × List Char)
  | [] => none
  | c :: rest =>
    if c = '0' then some (['0'], rest)
    else if c.isDigit then
      let (digits, rest) := spanDigits rest
      some (c :: digits, rest)
    else none

def scanFraction : List Char → List Char × List Char
  | '.' :: rest =>
    match spanDigits rest with
    | ([], _) => ([], '.' :: rest)
    | (digits, rest) => ('.' :: digits, rest)
  | rest => ([], rest)

def scanExponentSign : List Char → List Char × List Char
  | '+' :: rest => (['+'], rest)
  | '-' :: rest => (['-'], rest)
  | rest => ([], rest)

def scanExponent : List Char → List Char × List Char
  | [] => ([], [])
  | mark :: rest =>
    if mark = 'e' ∨ mark = 'E' then
      let (sign, unsigned) := scanExponentSign rest
      match spanDigits unsigned with
      | ([], _) => ([], mark :: rest)
      | (digits, rest) => (mark :: (sign ++ digits), rest)
    else ([], mark :: rest)

structure NumberToken where
  sign : List Char
  whole : List Char
  fraction : List Char
  exponent : List Char

def scanNumber (input : List Char) : Option (NumberToken × List Char) := do
  let (sign, unsigned) := scanSign input
  let (whole, rest) ← scanWhole unsigned
  let (fraction, rest) := scanFraction rest
  let (exponent, rest) := scanExponent rest
  return (⟨sign, whole, fraction, exponent⟩, rest)

variable {F : Type} [FloatText F]

def NumberToken.value (maxDigits : Nat) (token : NumberToken) : Option (Json F) :=
  if token.fraction = [] ∧ token.exponent = [] then
    if token.whole.length ≤ maxDigits then
      let magnitude : Int := Nat.ofDigitChars 10 token.whole 0
      some (.int (if token.sign = [] then magnitude else -magnitude))
    else none
  else
    (FloatText.read (token.sign ++ (token.whole ++ (token.fraction ++ token.exponent)))).map .float

def skipSpace : List Char → List Char
  | [] => []
  | c :: rest =>
    if c = ' ' ∨ c = '\t' ∨ c = '\n' ∨ c = '\r' then skipSpace rest else c :: rest

mutual

/-- Reads one value at the start of the text; repeated keys and constants such as NaN
are refused. -/
def readValue (maxDigits : Nat) : Nat → List Char → Option (Json F × List Char)
  | 0, _ => none
  | fuel + 1, input =>
    match input with
    | '"' :: rest => (scanText rest).map fun (text, rest) => (.str text, rest)
    | '{' :: rest =>
      match skipSpace rest with
      | '}' :: rest => some (.obj [], rest)
      | rest => do
          let (members, rest) ← readMembers maxDigits fuel rest
          if (members.map Prod.fst).Nodup then return (.obj members, rest) else none
    | '[' :: rest =>
      match skipSpace rest with
      | ']' :: rest => some (.arr [], rest)
      | rest => do
          let (items, rest) ← readItems maxDigits fuel rest
          return (.arr items, rest)
    | 'n' :: 'u' :: 'l' :: 'l' :: rest => some (.null, rest)
    | 't' :: 'r' :: 'u' :: 'e' :: rest => some (.bool true, rest)
    | 'f' :: 'a' :: 'l' :: 's' :: 'e' :: rest => some (.bool false, rest)
    | _ => do
        let (token, rest) ← scanNumber input
        let value ← token.value maxDigits
        return (value, rest)

def readItems (maxDigits : Nat) : Nat → List Char → Option (List (Json F) × List Char)
  | 0, _ => none
  | fuel + 1, input => do
      let (item, rest) ← readValue maxDigits fuel input
      match skipSpace rest with
      | ']' :: rest => return ([item], rest)
      | ',' :: rest => do
          let (items, rest) ← readItems maxDigits fuel (skipSpace rest)
          return (item :: items, rest)
      | _ => none

def readMembers (maxDigits : Nat) : Nat → List Char → Option (Members F × List Char)
  | 0, _ => none
  | fuel + 1, input =>
    match input with
    | '"' :: rest => do
        let (key, rest) ← scanText rest
        match skipSpace rest with
        | ':' :: rest => do
            let (value, rest) ← readValue maxDigits fuel (skipSpace rest)
            match skipSpace rest with
            | '}' :: rest => return ([(key, value)], rest)
            | ',' :: rest => do
                let (members, rest) ← readMembers maxDigits fuel (skipSpace rest)
                return ((key, value) :: members, rest)
            | _ => none
        | _ => none
    | _ => none

end

/-- Reads a whole text: one value between white space. -/
def loads (maxDigits : Nat) (input : List Char) : Option (Json F) := do
  let (value, rest) ← readValue maxDigits (2 * input.length + 2) (skipSpace input)
  if skipSpace rest = [] then return value else none

end DosWeb.Library.JsonText
