import DosWeb.Growth.JavaCode

/-!
The two scanners that tell Java code from its comments and literals: the one behind the redaction
and the one behind the scan of requests.
-/

namespace DosWeb.Llm

open Growth

def hexDigit (c : Char) : Bool := c.isDigit || ('a' ≤ c && c ≤ 'f') || ('A' ≤ c && c ≤ 'F')

def hexValue (digits : List Char) : Nat := digits.foldl (fun value c => value * 16 +
    if c.isDigit then c.toNat - '0'.toNat else c.toLower.toNat - 'a'.toNat + 10) 0

/-- `(?:\\)+u+([0-9a-fA-F]{4})` at the start of a text: the character and the length. -/
def unicodeEscape (text : List Char) : Option (Char × Nat) :=
  let slashes := (text.takeWhile (· = '\\')).length
  let letters := ((text.drop slashes).takeWhile (· = 'u')).length
  let digits := (text.drop (slashes + letters)).take 4
  if 0 < slashes ∧ 0 < letters ∧ digits.length = 4 ∧ digits.all hexDigit = true then
    some (Char.ofNat (hexValue digits), slashes + letters + 4)
  else none

/-- The number counts what the last match has still to pass over. -/
def decodeUnicode : Nat → List Char → List Char
  | _, [] => []
  | passed + 1, _ :: rest => decodeUnicode passed rest
  | 0, c :: rest =>
    match unicodeEscape (c :: rest) with
    | some (decoded, length) => decoded :: decodeUnicode (length - 1) rest
    | none => c :: decodeUnicode 0 rest

def translateRounds : Nat → List Char → List Char
  | 0, content => content
  | rounds + 1, content =>
    let decoded := decodeUnicode 0 content
    if decoded = content then content else translateRounds rounds decoded

def translateJavaUnicode (content : List Char) : List Char := translateRounds 8 content

def blank (c : Char) : Char := if lineEnd c then '\n' else ' '

/-- The characters from a state of the scanner on, each with whether it is left as code. -/
def codeFrom : Lexing → List Char → List (Char × Bool)
  | _, [] => []
  | .code, '/' :: '/' :: rest => (' ', false) :: (' ', false) :: codeFrom .lineComment rest
  | .code, '/' :: '*' :: rest => (' ', false) :: (' ', false) :: codeFrom .blockComment rest
  | .code, '"' :: '"' :: '"' :: rest =>
    (' ', false) :: (' ', false) :: (' ', false) :: codeFrom .textBlock rest
  | .code, '"' :: rest => (' ', false) :: codeFrom (.quoted '"') rest
  | .code, '\'' :: rest => (' ', false) :: codeFrom (.quoted '\'') rest
  | .code, c :: rest => (c, true) :: codeFrom .code rest
  | .lineComment, c :: rest =>
    (blank c, false) :: codeFrom (if lineEnd c then .code else .lineComment) rest
  | .blockComment, '*' :: '/' :: rest => (' ', false) :: (' ', false) :: codeFrom .code rest
  | .blockComment, c :: rest => (blank c, false) :: codeFrom .blockComment rest
  | .textBlock, '"' :: '"' :: '"' :: rest =>
    (' ', false) :: (' ', false) :: (' ', false) :: codeFrom .code rest
  | .textBlock, c :: rest => (blank c, false) :: codeFrom .textBlock rest
  | .quoted _, ['\\'] => [(' ', false)]
  | .quoted quote, '\\' :: _ :: rest =>
    (' ', false) :: (' ', false) :: codeFrom (.quoted quote) rest
  | .quoted quote, c :: rest =>
    (blank c, false) :: codeFrom (if c = quote then .code else .quoted quote) rest

def javaCodeOnly (content : List Char) : List Char :=
  (codeFrom .code (translateJavaUnicode content)).map Prod.fst

/-- Where no comment opens with its own end, the scanners agree exactly if they end fine. -/
theorem scanners_agree (state : Lexing) (content : List Char) (fine : Bool)
    (ends : ending true state content = some fine) :
    Agree content (leftByMask state content) ((codeFrom state content).map Prod.snd) ↔
      fine = true := by
  fun_induction ending true state content with
  | case1 => cases ends
  | case2 =>
    cases ends
    simp [leftByMask, codeFrom, lineEnd]
  | case13 c =>
    cases ends
    simp [leftByMask, codeFrom]
  | case17 rest _ short =>
    cases ends
    rcases rest with _ | ⟨c, _ | ⟨d, _ | ⟨e, rest⟩⟩⟩
    · simp
    · simp [leftByMask, codeFrom]
    · simp [leftByMask, codeFrom]
    · exact (short c d e rest rfl).elim
  | _ => simp_all [leftByMask, codeFrom]

def Unescaped (content : List Char) : Prop := ∀ tail, tail <:+ content → unicodeEscape tail = none

theorem unescaped_plain (content : List Char) (plain : '\\' ∉ content) : Unescaped content := by
  intro tail suffix
  have slashes : tail.takeWhile (· = '\\') = [] := by
    cases tail with
    | nil => rfl
    | cons c rest =>
      have other : c ≠ '\\' := fun same => plain (same ▸ suffix.subset (.head _))
      simp [other]
  simp [unicodeEscape, slashes]

theorem decode_unescaped (content : List Char) (plain : Unescaped content) :
    decodeUnicode 0 content = content := by
  induction content with
  | nil => rfl
  | cons c rest ih =>
    have own := plain (c :: rest) List.suffix_rfl
    have later := ih fun tail suffix => plain tail (suffix.trans (List.suffix_cons c rest))
    simp only [decodeUnicode, own, later]

theorem translate_unescaped (content : List Char) (plain : Unescaped content) :
    translateJavaUnicode content = content := by
  simp [translateJavaUnicode, translateRounds, decode_unescaped content plain]

/-- Line terminators aside, both leave the same characters as code. -/
def LexersAgree (content : List Char) : Prop := Agree content (leftByMask .code content)
    ((codeFrom .code (translateJavaUnicode content)).map Prod.snd)

/-- The lexers agree on a text that ends well and on none that ends badly. -/
theorem lexers_agreement (content : List Char) (plain : Unescaped content) :
    (ending true .code content = some true → LexersAgree content) ∧
    (LexersAgree content → ending true .code content ≠ some false) := by
  rw [LexersAgree, translate_unescaped content plain]
  constructor
  · exact fun ends => (scanners_agree .code content true ends).mpr rfl
  · intro agree ends
    cases (scanners_agree .code content false ends).mp agree

theorem lexers_agree_sample : LexersAgree "a /* b */ \"c\"".toList :=
  (lexers_agreement _ (unescaped_plain _ (by decide))).1 (by decide)

/-- A comment that opens with its own end is closed for one of the two only. -/
theorem short_comment_apart : ¬ ∀ content, Unescaped content → LexersAgree content := by
  intro agree
  have plain : Unescaped "/*/x".toList := unescaped_plain _ (by decide)
  have same := agree _ plain
  rw [LexersAgree, translate_unescaped _ plain] at same
  exact absurd (same 3 'x' rfl rfl) (by decide)

end DosWeb.Llm
