import DosWeb.Errors
import DosWeb.Library.Patterns
import DosWeb.Library.SplitLines
import DosWeb.Library.Text

/-!
Credentials redacted in source text: labels are looked for in a copy whose comments and literals
are masked, and the values behind them are replaced in the text itself, line by line.
-/

namespace DosWeb.Growth

open Library Library.Patterns Library.SplitLines

inductive Lexing where
  | code
  | lineComment
  | blockComment
  | textBlock
  | quoted (quote : Char)
  deriving DecidableEq

def lineEnd (c : Char) : Bool := c = '\r' || c = '\n'

def veiled (c : Char) : Char := if lineEnd c then c else '#'

/-- The copy with comments and literals masked, from a state of the scanner on. -/
def maskFrom : Lexing → List Char → List Char
  | .code, '/' :: '/' :: rest => '#' :: '#' :: maskFrom .lineComment rest
  | .code, '/' :: '*' :: rest => '#' :: maskFrom .blockComment ('*' :: rest)
  | .code, '"' :: '"' :: '"' :: rest => '#' :: '#' :: '#' :: maskFrom .textBlock rest
  | .code, '"' :: rest => '#' :: maskFrom (.quoted '"') rest
  | .code, '\'' :: rest => '#' :: maskFrom (.quoted '\'') rest
  | .code, c :: rest => c :: maskFrom .code rest
  | .lineComment, c :: rest =>
    if lineEnd c then c :: maskFrom .code rest else '#' :: maskFrom .lineComment rest
  | .blockComment, '*' :: '/' :: rest => '#' :: '#' :: maskFrom .code rest
  | .blockComment, [c] => [c]
  | .blockComment, c :: rest => veiled c :: maskFrom .blockComment rest
  | .textBlock, '"' :: '"' :: '"' :: rest => '#' :: '#' :: '#' :: maskFrom .code rest
  | .textBlock, c :: d :: e :: rest => veiled c :: maskFrom .textBlock (d :: e :: rest)
  | .textBlock, rest => rest
  | .quoted _, ['\\'] => ['#']
  | .quoted quote, '\\' :: _ :: rest => '#' :: '#' :: maskFrom (.quoted quote) rest
  | .quoted quote, c :: rest =>
    if c = quote then '#' :: maskFrom .code rest
    else veiled c :: maskFrom (.quoted quote) rest
  | _, [] => []

def maskCode (content : List Char) : List Char := maskFrom .code content

/-- Whether a character is a letter of a pattern up to case; of the other scripts, four letters
have the case of one of these. -/
def sameLetter (letter c : Char) : Bool :=
  c.toLower = letter || (letter = 'k' && c.toNat = 0x212a) || (letter = 's' && c.toNat = 0x17f) ||
    (letter = 'i' && (c.toNat = 0x130 || c.toNat = 0x131))

def letters (text : String) : Pattern :=
  text.toList.foldr (fun letter rest => .seq (.one (sameLetter letter)) rest) .empty

def choice : List Pattern → Pattern
  | [] => .one fun _ => false
  | [only] => only
  | first :: rest => .either first (choice rest)

/-- Two words, with an underscore or a hyphen between them or nothing. -/
def joinedBy (first : Pattern) (second : Pattern) : Pattern :=
  .seq first (.seq (.either (.one fun c => c = '_' || c = '-') .empty) second)

def credentialLabel : Pattern := choice [
  letters "authorization", joinedBy (letters "api") (letters "key"),
  joinedBy (letters "private") (letters "key"),
  joinedBy (letters "access") (choice [letters "token", letters "key"]),
  joinedBy (letters "refresh") (letters "token"), joinedBy (letters "client") (letters "secret"),
  joinedBy (letters "db") (letters "password"), letters "password", letters "passwd",
  letters "pwd", joinedBy (letters "oauth") (letters "token"), letters "token", letters "secret",
  letters "credential", letters "credentials"]

def mutatorLabel : Pattern := choice [
  letters "authorization", joinedBy (letters "api") (letters "key"),
  joinedBy (letters "private") (letters "key"),
  joinedBy (letters "access") (choice [letters "token", letters "key"]),
  joinedBy (letters "refresh") (letters "token"), joinedBy (letters "client") (letters "secret"),
  letters "password", letters "passwd", joinedBy (letters "oauth") (letters "token"),
  letters "token", letters "secret", letters "credential", letters "credentials"]

def spaces : Pattern := .many (.one Text.isSpace)

def operator (c : Char) : Bool := c = ':' || c = '='

def namePart (c : Char) : Bool :=
  ('a' ≤ c.toLower && c.toLower ≤ 'z') || c.isDigit || c = '_' || c = '$' ||
    [0x130, 0x131, 0x17f, 0x212a].contains c.toNat

def nameRest : Pattern := .many (.one namePart)

def openParenthesis : Pattern := .one fun c => c = '('

def labelled : Pattern := .seq .boundary credentialLabel

def assignment : Pattern := .seq labelled (.seq spaces (.seq (.one operator) spaces))

def mutator : Pattern :=
  .seq .boundary (.seq (choice [letters "set", letters "with", letters "add", letters "put",
    letters "update", letters "configure"]) (.seq nameRest (.seq mutatorLabel
      (.seq nameRest (.seq spaces openParenthesis)))))

def headerCall : Pattern :=
  .seq .boundary (.seq (choice [letters "set", letters "add", letters "put", letters "header"])
    (.seq spaces openParenthesis))

def exactly (text : String) : Pattern :=
  text.toList.foldr (fun c rest => .seq (.one fun d => d = c) rest) .empty

def quotedLiteral (quote : Char) : Pattern := .seq (.one fun c => c = quote) (.seq (.many (.either
    (.seq (.one fun c => c = '\\') (.one fun _ => true))
    (.one fun c => c ≠ quote && c ≠ '\\'))) (.one fun c => c = quote))

def stringLiteral : Pattern := choice [
  .seq (exactly "\"\"\"") (.seq (.few (.one fun _ => true)) (exactly "\"\"\"")),
  quotedLiteral '"', quotedLiteral '\'']

section

def redactedToken : List Char := "[REDACTED]".toList

def delimiters : List Char := [' ', '\t', ';', ',', ')', '}', '\n']

def blank (c : Char) : Bool := c = ' ' || c = '\t'

/-- Through the end of a text block that has been opened. -/
def textBlockEnd : List Char → Nat
  | '"' :: '"' :: '"' :: _ => 3
  | [] => 0
  | _ :: rest => 1 + textBlockEnd rest

/-- Through the end of a literal that has been opened; an escape at the end counts two. -/
def quotedEnd (quote : Char) : List Char → Nat
  | [] => 0
  | ['\\'] => 2
  | '\\' :: _ :: rest => 2 + quotedEnd quote rest
  | c :: rest => if c = quote then 1 else 1 + quotedEnd quote rest

def valueEnd (line : List Char) (start : Nat) : Nat :=
  let first := start + ((line.drop start).takeWhile blank).length
  match line.drop first with
  | [] => first
  | '"' :: '"' :: '"' :: rest => first + 3 + textBlockEnd rest
  | c :: rest =>
    if c = '"' || c = '\'' then first + 1 + quotedEnd c rest
    else first + ((c :: rest).takeWhile fun d => !delimiters.contains d).length

/-- The text with a token for each span that starts behind the one before. -/
def redactFrom (line : List Char) : Nat → List (Nat × Nat) → List Char
  | cursor, [] => line.drop cursor
  | cursor, (start, stop) :: spans =>
    if start < cursor then redactFrom line cursor spans
    else (line.drop cursor).take (start - cursor) ++ redactedToken ++ redactFrom line stop spans

theorem redact_chars (line : List Char) (cursor : Nat) (spans : List (Nat × Nat)) :
    ∀ c ∈ redactFrom line cursor spans, c ∈ line ∨ c ∈ redactedToken := by
  fun_induction redactFrom line cursor spans with
  | case1 cursor => exact fun c member => Or.inl (List.mem_of_mem_drop member)
  | case2 cursor start stop spans inside ih => exact ih
  | case3 cursor start stop spans inside ih =>
    intro c member
    rcases List.mem_append.mp member with front | back
    · rcases List.mem_append.mp front with text | token
      · exact Or.inl (List.mem_of_mem_drop (List.mem_of_mem_take text))
      · exact Or.inr token
    · exact ih c back

def spanOrder (left right : Nat × Nat) : Prop :=
  left.1 < right.1 ∨ (left.1 = right.1 ∧ left.2 ≤ right.2)

instance (left right : Nat × Nat) : Decidable (spanOrder left right) := by
  unfold spanOrder
  infer_instance

def redactSpans (line : List Char) (spans : List (Nat × Nat)) : List Char :=
  redactFrom line 0 (spans.insertionSort spanOrder)

variable (isWord : Char → Bool)

/-- The span of the second argument of a call whose first names a credential header. -/
def redactHeaderArgument (line : List Char) (openParenEnd : Nat) : Option (Nat × Nat) := do
  let tail := line.drop openParenEnd
  let first ← matchAt isWord stringLiteral ⟨none, tail⟩
  let nameText := tail.take (tail.length - first.rest.length)
  let quotes := if ['"', '"', '"'].isPrefixOf nameText then 3 else 1
  let stripped := (nameText.drop quotes).take (nameText.length - 2 * quotes)
  if (ends isWord credentialLabel ⟨none, Text.strip stripped⟩).all fun later => later.rest ≠ [] then
    none
  else do
    let after := openParenEnd + (tail.length - first.rest.length)
    let comma := after + ((line.drop after).takeWhile blank).length
    if (line.drop comma).head? = some ',' then some (comma + 1, valueEnd line (comma + 1)) else none

end

structure RedactionEvent where
  line : Int
  patternId : String
  deriving DecidableEq

variable (isWord : Char → Bool)

/-- The spans of a line with the patterns that found them in its masked copy. -/
def lineSpans (line maskedLine : List Char) : List ((Nat × Nat) × String) :=
  ((findAll isWord assignment maskedLine).map fun found =>
      let start := offset maskedLine found
      ((start, valueEnd line start), "credential_assignment")) ++
    (((findAll isWord mutator maskedLine).map fun found =>
      let start := offset maskedLine found
      ((start, valueEnd line start), "credential_mutator")) ++
    (findAll isWord headerCall maskedLine).filterMap fun found =>
      (redactHeaderArgument isWord line (offset maskedLine found)).map fun span =>
        (span, "credential_header"))

def maxEvents : Nat := 256

/-- The lines with their masked copies, as far as both go. -/
def linePairs (content : List Char) : List (List Char × List Char) :=
  (splitlines content).zip (splitlines (maskCode content))

def redactedLine (pair : List Char × List Char) : List Char :=
  redactSpans pair.1 ((lineSpans isWord pair.1 pair.2).map Prod.fst)

def redactSourceContent (content : List Char) (baseLine : Int) :
    Checked (List Char × List RedactionEvent) :=
  if baseLine < 1 then .error (.valueError "base_line must be a positive integer")
  else
    let pairs := linePairs content
    .ok ((pairs.map (redactedLine isWord)).flatten,
      ((pairs.zipIdx.flatMap fun item =>
        (lineSpans isWord item.1.1 item.1.2).map fun found =>
          (⟨baseLine + item.2, found.2⟩ : RedactionEvent)).take maxEvents))

end DosWeb.Growth
