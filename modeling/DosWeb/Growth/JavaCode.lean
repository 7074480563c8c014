import DosWeb.Growth.MaskedCopy

/-!
Which characters of a Java text are left as code: by the copy that the redaction masks, and by the
masks of the scans for endpoints and for map writes.
-/

namespace DosWeb.Growth

/-- Whether the masked copy leaves a character as code, with the cases of its scanner. -/
def leftByMask : Lexing → List Char → List Bool
  | .code, '/' :: '/' :: rest => false :: false :: leftByMask .lineComment rest
  | .code, '/' :: '*' :: rest => false :: leftByMask .blockComment ('*' :: rest)
  | .code, '"' :: '"' :: '"' :: rest => false :: false :: false :: leftByMask .textBlock rest
  | .code, '"' :: rest => false :: leftByMask (.quoted '"') rest
  | .code, '\'' :: rest => false :: leftByMask (.quoted '\'') rest
  | .code, _ :: rest => true :: leftByMask .code rest
  | .lineComment, c :: rest =>
    if lineEnd c then true :: leftByMask .code rest else false :: leftByMask .lineComment rest
  | .blockComment, '*' :: '/' :: rest => false :: false :: leftByMask .code rest
  | .blockComment, [_] => [true]
  | .blockComment, _ :: rest => false :: leftByMask .blockComment rest
  | .textBlock, '"' :: '"' :: '"' :: rest => false :: false :: false :: leftByMask .code rest
  | .textBlock, _ :: d :: e :: rest => false :: leftByMask .textBlock (d :: e :: rest)
  | .textBlock, rest => rest.map fun _ => true
  | .quoted _, ['\\'] => [false]
  | .quoted quote, '\\' :: _ :: rest => false :: false :: leftByMask (.quoted quote) rest
  | .quoted quote, c :: rest =>
    if c = quote then false :: leftByMask .code rest
    else false :: leftByMask (.quoted quote) rest
  | _, [] => []

/-- A character and its mark, and what the masked copy shows of it. -/
def ShownAs (item : Char × Bool) (shown : Char) : Prop :=
  if item.2 then shown = item.1 else shown = '#' ∨ lineEnd item.1 = true ∧ shown = item.1

theorem shown_veiled (c : Char) : ShownAs (c, false) (veiled c) := by
  unfold veiled
  split
  · exact Or.inr ⟨‹_›, rfl⟩
  · exact Or.inl rfl

theorem mask_left (state : Lexing) (content : List Char) :
    List.Forall₂ ShownAs (content.zip (leftByMask state content)) (maskFrom state content) := by
  have own (c : Char) : ShownAs (c, true) c := rfl
  have masked (c : Char) : ShownAs (c, false) '#' := Or.inl rfl
  have whole (rest : List Char) :
      List.Forall₂ ShownAs (rest.zip (rest.map fun _ => true)) rest := by
    induction rest with
    | nil => exact .nil
    | cons c rest ih => exact .cons (own c) ih
  fun_induction maskFrom state content with
  | case14 rest => simpa [leftByMask, *] using whole rest
  | _ => simp [leftByMask, shown_veiled, *]

variable (blocks : Bool) in
/-- Whether what a scan leaves open at the end holds nothing but line terminators; none behind a
comment that opens with its own end and, unless blocks are read, behind a text block. -/
def ending : Lexing → List Char → Option Bool
  | .code, '/' :: '*' :: '/' :: _ => none
  | .code, ['/', '*'] => some false
  | .code, '/' :: '/' :: rest => ending .lineComment rest
  | .code, '/' :: '*' :: rest => ending .blockComment rest
  | .code, '"' :: '"' :: '"' :: rest => if blocks then ending .textBlock rest else none
  | .code, '"' :: rest => ending (.quoted '"') rest
  | .code, '\'' :: rest => ending (.quoted '\'') rest
  | .code, _ :: rest => ending .code rest
  | .lineComment, c :: rest => if lineEnd c then ending .code rest else ending .lineComment rest
  | .blockComment, '*' :: '/' :: rest => ending .code rest
  | .blockComment, [c] => some (lineEnd c)
  | .blockComment, _ :: rest => ending .blockComment rest
  | .textBlock, '"' :: '"' :: '"' :: rest => ending .code rest
  | .textBlock, _ :: d :: e :: rest => ending .textBlock (d :: e :: rest)
  | .textBlock, rest => some (rest.all lineEnd)
  | .quoted _, ['\\'] => some true
  | .quoted quote, '\\' :: _ :: rest => ending (.quoted quote) rest
  | .quoted quote, c :: rest => if c = quote then ending .code rest else ending (.quoted quote) rest
  | _, [] => some true

def Agree (content : List Char) (left right : List Bool) : Prop :=
  ∀ (index : Nat) (c : Char), content[index]? = some c → lineEnd c = false →
    left[index]? = right[index]?

@[simp] theorem agree_nil (left right : List Bool) : Agree [] left right := nofun

@[simp] theorem agree_cons (c : Char) (content : List Char) (one other : Bool)
    (left right : List Bool) : Agree (c :: content) (one :: left) (other :: right) ↔
      (lineEnd c = false → one = other) ∧ Agree content left right := by
  constructor
  · intro agree
    exact ⟨fun plain => Option.some.inj (agree 0 c rfl plain), fun index => agree (index + 1)⟩
  · rintro ⟨same, agree⟩ index
    cases index with
    | zero =>
      intro d held plain
      cases held
      exact congrArg some (same plain)
    | succ index => exact agree index

def hidden (literals : Bool) (c : Char) : Char × Bool :=
  if literals && !lineEnd c then (' ', false) else (c, true)

variable (literals : Bool) in
/-- The scan of `_mask`, each character with whether it is left; it knows no text blocks. -/
def maskSourceFrom : Lexing → List Char → List (Char × Bool)
  | _, [] => []
  | .code, '/' :: '/' :: rest =>
    (' ', false) :: (' ', false) :: maskSourceFrom .lineComment rest
  | .code, '/' :: '*' :: rest =>
    (' ', false) :: (' ', false) :: maskSourceFrom .blockComment rest
  | .code, '"' :: rest => hidden literals '"' :: maskSourceFrom (.quoted '"') rest
  | .code, '\'' :: rest => hidden literals '\'' :: maskSourceFrom (.quoted '\'') rest
  | .code, c :: rest => (c, true) :: maskSourceFrom .code rest
  | .lineComment, c :: rest =>
    if lineEnd c then (c, true) :: maskSourceFrom .code rest
    else (' ', false) :: maskSourceFrom .lineComment rest
  | .blockComment, '*' :: '/' :: rest =>
    (' ', false) :: (' ', false) :: maskSourceFrom .code rest
  | .blockComment, c :: rest => hidden true c :: maskSourceFrom .blockComment rest
  | .textBlock, rest => rest.map fun c => (c, true)
  | .quoted quote, '\\' :: c :: rest =>
    hidden literals '\\' :: hidden literals c :: maskSourceFrom (.quoted quote) rest
  | .quoted quote, c :: rest =>
    if c = quote then hidden literals c :: maskSourceFrom .code rest
    else hidden literals c :: maskSourceFrom (.quoted quote) rest

def maskSource (literals : Bool) (source : List Char) : List Char :=
  (maskSourceFrom literals .code source).map Prod.fst

/-- `_mask_comments` is the same scan. -/
def maskComments (source : List Char) : List Char := maskSource false source

/-- The scan of `_mask_literals`, inside the literal of a quote or outside. -/
def maskLiteralsFrom : Option Char → List Char → List Char
  | _, [] => []
  | none, c :: rest =>
    if c = '"' ∨ c = '\'' then ' ' :: maskLiteralsFrom (some c) rest
    else c :: maskLiteralsFrom none rest
  | some quote, '\\' :: c :: rest => ' ' :: (hidden true c).1 :: maskLiteralsFrom (some quote) rest
  | some quote, c :: rest =>
    (hidden true c).1 :: maskLiteralsFrom (if c = quote then none else some quote) rest

def maskLiterals (source : List Char) : List Char := maskLiteralsFrom none source

def Lexing.literal : Lexing → Option Char
  | .quoted quote => some quote
  | _ => none

theorem line_end_plain (c : Char) (ends : lineEnd c = true) : c ≠ '"' ∧ c ≠ '\'' := by
  constructor <;> (rintro rfl; cases ends)

theorem hidden_plain (c : Char) : (hidden true c).1 ≠ '"' ∧ (hidden true c).1 ≠ '\'' := by
  cases ends : lineEnd c with
  | true => simpa [hidden, ends] using line_end_plain c ends
  | false => simp [hidden, ends]

theorem last_slash (c : Char) (rest : List Char)
    (open_ : ∀ d tail, c = '\\' → rest = d :: tail → False) (slash : c = '\\') : rest = [] := by
  cases rest with
  | nil => rfl
  | cons d tail => exact (open_ d tail slash rfl).elim

/-- Masking the literals of a text without comments is masking both at once. -/
theorem two_passes (state : Lexing) (source : List Char) (known : state ≠ .textBlock) :
    maskLiteralsFrom state.literal ((maskSourceFrom false state source).map Prod.fst) =
      (maskSourceFrom true state source).map Prod.fst := by
  have own (quote c : Char) (rest shown : List Char) (open_ : c = '\\' → rest = []) :
      maskLiteralsFrom (some quote) ((hidden false c).1 :: rest) = (hidden true c).1 :: shown ↔
        maskLiteralsFrom (if c = quote then none else some quote) rest = shown := by
    by_cases slash : c = '\\'
    · rw [open_ slash]
      simp [hidden, maskLiteralsFrom]
    · simp [hidden, maskLiteralsFrom, slash]
  fun_induction maskSourceFrom true state source with
  | case4 | case5 | case12 =>
    simp_all [maskSourceFrom, maskLiteralsFrom, Lexing.literal, hidden, lineEnd]
  | case7 c rest ends =>
    simp_all [maskSourceFrom, maskLiteralsFrom, Lexing.literal, line_end_plain c ends]
  | case10 c => simp_all [maskSourceFrom, maskLiteralsFrom, Lexing.literal, hidden_plain c]
  | case13 quote rest open_ =>
    have none_ := last_slash quote rest open_
    simp_all [maskSourceFrom, Lexing.literal]
  | case14 quote c rest open_ =>
    have none_ := last_slash c rest open_
    simp_all [maskSourceFrom, Lexing.literal]
  | _ => simp_all [maskSourceFrom, maskLiteralsFrom, Lexing.literal]

/-- A mask of the text's length that keeps its line terminators. -/
def KeepsShape (source shown : List Char) : Prop :=
  List.Forall₂ (fun c d => lineEnd c = true → d = c) source shown

theorem mask_source_shape (state : Lexing) (source : List Char) :
    KeepsShape source ((maskSourceFrom true state source).map Prod.fst) := by
  have covers (c : Char) (ends : lineEnd c = true) : (hidden true c).1 = c := by
    simp [hidden, ends]
  unfold KeepsShape at *
  fun_induction maskSourceFrom true state source with
  | case1 | case2 | case3 | case8 | case9 => simp_all [lineEnd]
  | _ => simp_all

theorem sources_agree (state : Lexing) (source : List Char) (fine : Bool)
    (ends : ending false state source = some fine) (known : state ≠ .textBlock) :
    Agree source (leftByMask state source) ((maskSourceFrom true state source).map Prod.snd) ↔
      fine = true := by
  fun_induction ending false state source with
  | case1 => cases ends
  | case2 =>
    cases ends
    simp [leftByMask, maskSourceFrom, lineEnd]
  | case13 c =>
    cases ends
    cases lines : lineEnd c <;> simp [leftByMask, maskSourceFrom, hidden, lines]
  | _ => simp_all [leftByMask, maskSourceFrom, hidden]

/-- Both masks leave the same, keep the shape and agree with the redaction on what is code. -/
structure MasksAgree (source : List Char) : Prop where
  same : maskLiterals (maskComments source) = maskSource true source
  shape : KeepsShape source (maskSource true source)
  code : Agree source (leftByMask .code source) ((maskSourceFrom true .code source).map Prod.snd)

/-- The masks agree on a text that ends well and on none that ends badly. -/
theorem masks_agreement (source : List Char) :
    (ending false .code source = some true → MasksAgree source) ∧
    (MasksAgree source → ending false .code source ≠ some false) := by
  have code (fine : Bool) (ends : ending false .code source = some fine) :=
    sources_agree .code source fine ends nofun
  constructor
  · intro ends
    exact ⟨two_passes .code source nofun, mask_source_shape .code source, (code true ends).mpr rfl⟩
  · intro agree ends
    cases (code false ends).mp agree.code

theorem masks_agree_sample : MasksAgree "a /* b */ \"c\"".toList :=
  (masks_agreement _).1 (by decide)

/-- Behind a quote in a text block the masks take the rest of the block for code. -/
theorem text_block_apart : ¬ ∀ source, MasksAgree source := by
  intro agree
  have same := (agree "\"\"\"\na\"b\"\"\"".toList).code 6 'b' rfl rfl
  exact absurd same (by decide)

end DosWeb.Growth
