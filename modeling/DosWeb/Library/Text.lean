import Mathlib.Data.String.Basic

/-!
Operations of Python texts that programs use on short fields: leads and endings,
splitting at a separator, and the integer a text denotes.
-/

namespace DosWeb.Library.Text

/-- Named, so that decisions about lists of parts carry it by its name. -/
instance lawful_parts : LawfulBEq (List Char) := inferInstance

def startsWith (text lead : String) : Bool := lead.toList.isPrefixOf text.toList

def endsWith (text ending : String) : Bool := ending.toList.isSuffixOf text.toList

theorem startsWith_append (lead tail : String) : startsWith (lead ++ tail) lead = true := by
  simp [startsWith, String.toList_append]

theorem startsWith_nonempty (text lead : String) (filled : lead ≠ "")
    (starts : startsWith text lead = true) : text ≠ "" := by
  rintro rfl
  rw [startsWith, List.isPrefixOf_iff_prefix] at starts
  have empty : lead.toList = [] := List.prefix_nil.mp starts
  exact filled (String.toList_eq_nil_iff.mp empty)

def removeLead (text lead : String) : String :=
  if startsWith text lead then String.ofList (text.toList.drop lead.length) else text

theorem removeLead_append (lead tail : String) : removeLead (lead ++ tail) lead = tail := by
  rw [removeLead, startsWith_append, if_pos rfl, String.toList_append, ← String.length_toList,
    List.drop_left, String.ofList_toList]

def lowerAscii (text : String) : String := String.ofList (text.toList.map Char.toLower)

def utf8 (text : List Char) : List UInt8 := text.flatMap String.utf8EncodeChar

theorem startsWith_comparable (text first second : String) (one : startsWith text first = true)
    (other : startsWith text second = true) :
    startsWith first second = true ∨ startsWith second first = true := by
  simp only [startsWith, List.isPrefixOf_iff_prefix] at one other ⊢
  rcases List.prefix_or_prefix_of_prefix one other with below | above
  · exact Or.inr below
  · exact Or.inl above

theorem startsWith_other (text lead other : String) (starts : startsWith text lead = true)
    (apart : (startsWith lead other || startsWith other lead) = false) :
    startsWith text other = false := by
  by_contra both
  have comparable := startsWith_comparable text lead other starts (by simpa using both)
  rcases comparable with held | held <;> simp [held] at apart

theorem utf8_length_ascii (text : List Char) (ascii : ∀ c ∈ text, c.toNat < 128) :
    (utf8 text).length = text.length := by
  induction text with
  | nil => rfl
  | cons c text ih =>
    have own : (String.utf8EncodeChar c).length = 1 := by
      have small := ascii c (.head _)
      have size : c.utf8Size = 1 := by
        simp only [Char.utf8Size_eq_one_iff]
        exact UInt32.le_iff_toNat_le.mpr (by simpa using Nat.le_of_lt_succ small)
      simpa using size
    have rest := ih (fun d member => ascii d (.tail _ member))
    simp only [utf8, List.flatMap_cons, List.length_append, List.length_cons] at rest ⊢
    omega

/-- The parts between the separators: one more than there are separators. -/
def splitOn (sep : Char) : List Char → List (List Char)
  | [] => [[]]
  | c :: rest =>
    if c = sep then [] :: splitOn sep rest
    else
      match splitOn sep rest with
      | [] => [[c]]
      | part :: parts => (c :: part) :: parts

def partition (sep : Char) : List Char → Option (List Char × List Char)
  | [] => none
  | c :: rest =>
    if c = sep then some ([], rest)
    else (partition sep rest).map fun (head, tail) => (c :: head, tail)

def partitionLast (sep : Char) (text : List Char) : Option (List Char × List Char) :=
  (partition sep text.reverse).map fun (tail, head) => (head.reverse, tail.reverse)

theorem partition_shape (sep : Char) (text head tail : List Char)
    (found : partition sep text = some (head, tail)) : text = head ++ sep :: tail := by
  induction text generalizing head with
  | nil => cases found
  | cons c rest ih =>
    unfold partition at found
    split at found
    · rename_i same
      cases found
      simp [same]
    · rcases Option.map_eq_some_iff.mp found with ⟨⟨front, back⟩, inner, pair⟩
      cases pair
      simp [ih front inner]

theorem partition_append (sep : Char) (head tail : List Char) (absent : sep ∉ head) :
    partition sep (head ++ sep :: tail) = some (head, tail) := by
  induction head with
  | nil => simp [partition]
  | cons c head ih =>
    have split := not_or.mp (fun member => absent (List.mem_cons.mpr member))
    simp [partition, Ne.symm split.1, ih split.2]

theorem partitionLast_shape (sep : Char) (text head tail : List Char)
    (found : partitionLast sep text = some (head, tail)) : text = head ++ sep :: tail := by
  rcases Option.map_eq_some_iff.mp found with ⟨⟨back, front⟩, inner, pair⟩
  cases pair
  have shape := congrArg List.reverse (partition_shape sep _ _ _ inner)
  simpa using shape

def zeroDigits : List Nat := [
  0x30, 0x660, 0x6f0, 0x7c0, 0x966, 0x9e6, 0xa66, 0xae6, 0xb66, 0xbe6, 0xc66, 0xce6, 0xd66, 0xde6,
  0xe50, 0xed0, 0xf20, 0x1040, 0x1090, 0x17e0, 0x1810, 0x1946, 0x19d0, 0x1a80, 0x1a90, 0x1b50,
  0x1bb0, 0x1c40, 0x1c50, 0xa620, 0xa8d0, 0xa900, 0xa9d0, 0xa9f0, 0xaa50, 0xabf0, 0xff10, 0x104a0,
  0x10d30, 0x11066, 0x110f0, 0x11136, 0x111d0, 0x112f0, 0x11450, 0x114d0, 0x11650, 0x116c0,
  0x11730, 0x118e0, 0x11950, 0x11c50, 0x11d50, 0x11da0, 0x16a60, 0x16ac0, 0x16b50, 0x1d7ce,
  0x1d7d8, 0x1d7e2, 0x1d7ec, 0x1d7f6, 0x1e140, 0x1e2f0, 0x1e950, 0x1fbf0]

def decimalValue (c : Char) : Option Nat :=
  (zeroDigits.find? fun base => base ≤ c.toNat ∧ c.toNat < base + 10).map (c.toNat - ·)

/-- The ranges of digits that are no decimal digits, such as superscripts. -/
def otherDigits : List (Nat × Nat) := [
  (0xb2, 0xb3), (0xb9, 0xb9), (0x1369, 0x1371), (0x19da, 0x19da), (0x2070, 0x2070),
  (0x2074, 0x2079), (0x2080, 0x2089), (0x2460, 0x2468), (0x2474, 0x247c), (0x2488, 0x2490),
  (0x24ea, 0x24ea), (0x24f5, 0x24fd), (0x24ff, 0x24ff), (0x2776, 0x277e), (0x2780, 0x2788),
  (0x278a, 0x2792), (0x10a40, 0x10a43), (0x10e60, 0x10e68), (0x11052, 0x1105a), (0x1f100, 0x1f10a)]

def isDigit (text : List Char) : Bool :=
  text ≠ [] && text.all fun c =>
    (decimalValue c).isSome || otherDigits.any fun range => range.1 ≤ c.toNat && c.toNat ≤ range.2

/-- White space around the digits that the conversion to an integer skips. -/
def numberSpace (c : Char) : Bool :=
  (9 ≤ c.toNat && c.toNat ≤ 13) || (0x2000 ≤ c.toNat && c.toNat ≤ 0x200a) ||
    [0x20, 0x85, 0xa0, 0x1680, 0x2028, 0x2029, 0x202f, 0x205f, 0x3000].contains c.toNat

def digitRun : List Char → Option (List Nat)
  | [] => none
  | [c] => (decimalValue c).map fun digit => [digit]
  | c :: '_' :: rest => do
      let digit ← decimalValue c
      let digits ← digitRun rest
      return digit :: digits
  | c :: rest => do
      let digit ← decimalValue c
      let digits ← digitRun rest
      return digit :: digits

def stripSpace (text : List Char) : List Char :=
  ((text.dropWhile numberSpace).reverse.dropWhile numberSpace).reverse

/-- White space at the ends of a text: what numbers skip and the information separators. -/
def isSpace (c : Char) : Bool := numberSpace c || (0x1c ≤ c.toNat && c.toNat ≤ 0x1f)

def strip (text : List Char) : List Char :=
  ((text.dropWhile isSpace).reverse.dropWhile isSpace).reverse

/-- The integer a text denotes in base ten; a run of digits over the limit is refused. -/
def parseInt (maxDigits : Nat) (text : String) : Option Int := do
  let (negative, unsigned) := match stripSpace text.toList with
    | '-' :: rest => (true, rest)
    | '+' :: rest => (false, rest)
    | rest => (false, rest)
  let digits ← digitRun unsigned
  if digits.length ≤ maxDigits then
    let magnitude : Int := (digits.foldl (fun total digit => total * 10 + digit) 0 : Nat)
    return if negative then -magnitude else magnitude
  else none

end DosWeb.Library.Text
