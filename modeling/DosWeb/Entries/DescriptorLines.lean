import DosWeb.Library.SplitLines
import DosWeb.Library.Text
import Mathlib.Algebra.GroupWithZero.Nat

/-!
The servlet mappings of a `web.xml` descriptor and the lines that they are recorded with, which
come from a pattern that is matched against the raw lines.
-/

namespace DosWeb.Entries.WebXml

open Library Library.SplitLines

inductive TagKind
  | servlet
  | mapping
  deriving DecidableEq

def TagKind.text : TagKind → List Char
  | .servlet => "servlet".toList
  | .mapping => "servlet-mapping".toList

section

/-- An element as the XML parser gives it, with the depth it stands at and the place of its start
tag in the text. -/
structure Element where
  tag : List Char
  children : List (List Char × Option (List Char))
  depth : Nat
  start : Nat

/-- A descriptor that the parser accepts and that is within the limits; its elements come in
document order. -/
structure Descriptor where
  text : List Char
  elements : List Element
  ordered : (elements.map Element.start).Pairwise (· < ·)
  tagged : ∀ element ∈ elements, text[element.start]? = some '<'
  few : elements.length ≤ 512
  shallow : ∀ element ∈ elements, element.depth ≤ 32

def localName (tag : List Char) : List Char :=
  let own := (tag.reverse.takeWhile (· ≠ '}')).reverse
  if ':' ∈ own then (own.dropWhile (· ≠ ':')).drop 1 else own

def Element.kind (element : Element) : Option TagKind :=
  [TagKind.servlet, .mapping].find? fun kind => kind.text = localName element.tag

def maxTextBytes : Nat := 4096

/-- `_text`: the stripped text of the only child of a name. -/
def Element.childText (element : Element) (name : String) : Option (List Char) :=
  match element.children.filterMap fun child =>
      if localName child.1 = name.toList then (child.2.filter (· ≠ [])).map Text.strip
      else none with
  | [value] =>
    if value = [] ∨ maxTextBytes < (String.ofList value).utf8ByteSize then none else some value
  | _ => none

variable (isWord : Char → Bool)

/-- A name of a tag with a blank or the end of the tag behind it. -/
def namedKind (text : List Char) : Option TagKind :=
  [TagKind.servlet, .mapping].find? fun kind =>
    kind.text.isPrefixOf text &&
      (text.drop kind.text.length).head?.any fun c => Text.isSpace c || c = '>'

/-- `_TAG_LINE` from behind a `<` on. -/
def tagKind (text : List Char) : Option TagKind :=
  let name := text.dropWhile Text.isSpace
  let behind := (name.drop 1).dropWhile fun c => isWord c || c = '.' || c = '-'
  if name.head?.any (fun c => c.isAlpha || c = '_') && behind.head? = some ':' then
    (namedKind (behind.drop 1)).or (namedKind name)
  else namedKind name

/-- How often the pattern finds tags of a kind in a line. -/
def tagCount (kind : TagKind) : List Char → Nat
  | [] => 0
  | c :: rest =>
    (if c = '<' ∧ tagKind isWord rest = some kind then 1 else 0) + tagCount kind rest

def tagCounts (kind : TagKind) (text : List Char) : List Nat :=
  (splitlines text).map fun line => tagCount isWord kind (lineText line)

/-- Each line as often as it has tags, from a line number on. -/
def linesFrom : Nat → List Nat → List Nat
  | _, [] => []
  | line, count :: counts => List.replicate count line ++ linesFrom (line + 1) counts

variable (descriptor : Descriptor)

/-- The elements of a kind with their numbers. -/
def elementsOf (kind : TagKind) : List (Element × Nat) :=
  (descriptor.elements.filter (·.kind = some kind)).zipIdx

def recordedLine (kind : TagKind) (index : Nat) : Nat :=
  (linesFrom 1 (tagCounts isWord kind descriptor.text))[index]?.getD 1

structure Declaration where
  name : List Char
  servletClass : List Char
  element : Element × Nat

def declarations : List Declaration :=
  (elementsOf descriptor .servlet).filterMap fun element => do
    let name ← element.1.childText "servlet-name"
    let servletClass ← element.1.childText "servlet-class"
    pure ⟨name, servletClass, element⟩

/-- A mapping that is bound to the only declaration of its name. -/
structure Resolved where
  pattern : List Char
  element : Element × Nat
  declaration : Declaration

def resolvedOf (element : Element × Nat) : Option Resolved := do
  let name ← element.1.childText "servlet-name"
  let pattern ← element.1.childText "url-pattern"
  if pattern.head? ≠ some '/' then none
  else
    match (declarations descriptor).filter (·.name = name) with
    | [declaration] => some ⟨pattern, element, declaration⟩
    | _ => none

def resolved : List Resolved := (elementsOf descriptor .mapping).filterMap (resolvedOf descriptor)

structure MappingRow where
  servletName : List Char
  servletClass : List Char
  pattern : List Char
  line : Nat
  declarationLine : Nat

def Resolved.row (mapping : Resolved) : MappingRow where
  servletName := mapping.declaration.name
  servletClass := mapping.declaration.servletClass
  pattern := mapping.pattern
  line := recordedLine isWord descriptor .mapping mapping.element.2
  declarationLine := recordedLine isWord descriptor .servlet mapping.declaration.element.2

/-- `_parse_descriptor`: the rows and the declared classes; the diagnostics are left out. -/
def parseDescriptor : List MappingRow × List (List Char) :=
  ((resolved descriptor).map (Resolved.row isWord descriptor),
    (declarations descriptor).map Declaration.servletClass)

end

section

/-- The line in which a place of a text stands. -/
def lineOf : List Char → Nat → Nat
  | c :: rest, place + 1 => lineOf rest place + if breaksAfter c rest.head? then 1 else 0
  | _, _ => 1

theorem lines_length (line : Nat) (counts : List Nat) :
    (linesFrom line counts).length = counts.sum := by
  induction counts generalizing line with
  | nil => rfl
  | cons count counts ih => simp [linesFrom, ih]

/-- A line is at a place exactly where the tags before it are no more and those up to its end
are more. -/
theorem lines_at_iff (base : Nat) (counts : List Nat) (index line : Nat) :
    (linesFrom base counts)[index]? = some line ↔ base ≤ line ∧
      (counts.take (line - base)).sum ≤ index ∧ index < (counts.take (line - base + 1)).sum := by
  induction counts generalizing base index with
  | nil => simp [linesFrom]
  | cons count counts ih =>
    rw [linesFrom, List.getElem?_append, List.length_replicate]
    by_cases inside : index < count
    · rw [if_pos inside, List.getElem?_replicate, if_pos inside, Option.some.injEq]
      rcases Nat.lt_trichotomy line base with before | same | after
      · omega
      · simp [same, inside]
      · obtain ⟨rest, far⟩ : ∃ rest, line - base = rest + 1 := ⟨line - base - 1, by omega⟩
        rw [far, List.take_succ_cons, List.sum_cons]
        omega
    · rw [if_neg inside, ih]
      rcases Nat.lt_trichotomy line base with before | same | after
      · omega
      · simp [same]
        omega
      · obtain ⟨rest, far⟩ : ∃ rest, line - base = rest + 1 := ⟨line - base - 1, by omega⟩
        rw [far, List.take_succ_cons, List.take_succ_cons, List.sum_cons, List.sum_cons,
          show line - (base + 1) = rest by omega]
        omega

variable (isWord : Char → Bool) (descriptor : Descriptor)

/-- The pattern finds as many tags before the element's line as there are elements before it, and
more up to the end of the line; or it finds too few, and the element is in the first line. -/
def Counted (kind : TagKind) (element : Element × Nat) : Prop :=
  let counts := tagCounts isWord kind descriptor.text
  let line := lineOf descriptor.text element.1.start
  (counts.take (line - 1)).sum ≤ element.2 ∧ element.2 < (counts.take line).sum ∨
    counts.sum ≤ element.2 ∧ line = 1

theorem line_positive (text : List Char) (place : Nat) : 1 ≤ lineOf text place := by
  induction text generalizing place with
  | nil => exact le_rfl
  | cons c rest ih =>
    cases place with
    | zero => exact le_rfl
    | succ place => exact (ih place).trans (Nat.le_add_right _ _)

theorem recorded_iff (kind : TagKind) (element : Element × Nat) :
    recordedLine isWord descriptor kind element.2 = lineOf descriptor.text element.1.start ↔
      Counted isWord descriptor kind element := by
  have least := line_positive descriptor.text element.1.start
  have size := lines_length 1 (tagCounts isWord kind descriptor.text)
  have placed := lines_at_iff 1 (tagCounts isWord kind descriptor.text) element.2
    (lineOf descriptor.text element.1.start)
  rw [Nat.sub_add_cancel least, and_iff_right least] at placed
  dsimp only [recordedLine, Counted]
  rw [← placed, ← size, ← List.getElem?_eq_none_iff]
  cases (linesFrom 1 (tagCounts isWord kind descriptor.text))[element.2]? with
  | none => simp [eq_comm]
  | some line => simp

end

/-- Every row points at its elements exactly where the pattern's tags are counted as the elements
are. -/
theorem descriptor_lines_iff (isWord : Char → Bool) (descriptor : Descriptor) :
    (parseDescriptor isWord descriptor).1 =
        (resolved descriptor).map (Resolved.row isWord descriptor) ∧
      ((∀ mapping ∈ resolved descriptor,
        (mapping.row isWord descriptor).line = lineOf descriptor.text mapping.element.1.start ∧
        (mapping.row isWord descriptor).declarationLine =
          lineOf descriptor.text mapping.declaration.element.1.start) ↔
      ∀ mapping ∈ resolved descriptor, Counted isWord descriptor .mapping mapping.element ∧
        Counted isWord descriptor .servlet mapping.declaration.element) := by
  refine ⟨rfl, forall₂_congr fun mapping _ => ?_⟩
  exact and_congr (recorded_iff isWord descriptor .mapping mapping.element)
    (recorded_iff isWord descriptor .servlet mapping.declaration.element)

/-- A descriptor with a comment before its servlet. -/
def commented : Descriptor where
  text := ("<w><!-- <servlet> -->\n<servlet><servlet-name>a</servlet-name><servlet-class>C" ++
    "</servlet-class></servlet><servlet-mapping><servlet-name>a</servlet-name>" ++
    "<url-pattern>/</url-pattern></servlet-mapping></w>").toList
  elements := [⟨"w".toList, [], 1, 0⟩,
    ⟨"servlet".toList, [("servlet-name".toList, "a".toList), ("servlet-class".toList, "C".toList)],
      2, 22⟩, ⟨"servlet-name".toList, [], 3, 31⟩, ⟨"servlet-class".toList, [], 3, 61⟩,
    ⟨"servlet-mapping".toList,
      [("servlet-name".toList, "a".toList), ("url-pattern".toList, "/".toList)], 2, 103⟩,
    ⟨"servlet-name".toList, [], 3, 120⟩, ⟨"url-pattern".toList, [], 3, 150⟩]
  ordered := by decide
  tagged := by decide +kernel
  few := by decide
  shallow := by decide

theorem comment_counted : ¬ ∀ (isWord : Char → Bool) (descriptor : Descriptor),
    ∀ mapping ∈ resolved descriptor, (mapping.row isWord descriptor).declarationLine =
      lineOf descriptor.text mapping.declaration.element.1.start := by
  intro pointed
  have shown : ((resolved commented).all fun mapping =>
      (mapping.row Char.isAlphanum commented).declarationLine =
        lineOf commented.text mapping.declaration.element.1.start) = false := by decide +kernel
  have held := pointed Char.isAlphanum commented
  rw [List.all_eq_false] at shown
  obtain ⟨mapping, member, other⟩ := shown
  exact other (decide_eq_true (held mapping member))

end DosWeb.Entries.WebXml
