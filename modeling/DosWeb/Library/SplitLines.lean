import DosWeb.Library.Pieces

/-!
Texts cut into lines that keep their terminators.
-/

namespace DosWeb.Library.SplitLines

open Library.Pieces

section

def separator (c : Char) : Bool :=
  [0x0a, 0x0b, 0x0c, 0x0d, 0x1c, 0x1d, 0x1e, 0x85, 0x2028, 0x2029].contains c.toNat

/-- A carriage return and the line feed behind it end one line. -/
def breaksAfter (c : Char) (next : Option Char) : Bool :=
  separator c && !(c = '\r' && next = some '\n')

def splitlines (text : List Char) : List (List Char) := pieces breaksAfter text

def lineText (line : List Char) : List Char := line.takeWhile fun c => !separator c

def terminator (line : List Char) : List Char := line.dropWhile fun c => !separator c

def terminators (text : List Char) : List (List Char) := (splitlines text).map terminator

variable (line : List Char)

theorem line_whole : lineText line ++ terminator line = line := List.takeWhile_append_dropWhile

theorem text_plain : ∀ c ∈ lineText line, separator c = false := by
  intro c member
  simpa using List.mem_takeWhile_imp member

theorem solid_terminator (solid : Solid breaksAfter line) :
    terminator line = [] ∨ (∃ c, separator c = true ∧ terminator line = [c]) ∨
      terminator line = ['\r', '\n'] := by
  induction line with
  | nil => exact Or.inl rfl
  | cons c rest ih =>
    have tail : Solid breaksAfter rest := by
      cases rest with
      | nil => trivial
      | cons next rest => exact solid.2
    unfold terminator at ih ⊢
    by_cases ends_ : separator c = true
    · right
      rw [List.dropWhile_cons_of_neg (by simp [ends_])]
      cases rest with
      | nil => exact Or.inl ⟨c, ends_, rfl⟩
      | cons next rest =>
        have open_ := solid.1
        simp only [breaksAfter, ends_, Bool.true_and, Bool.not_eq_false', Bool.and_eq_true,
          decide_eq_true_eq, Option.some_inj] at open_
        obtain ⟨rfl, rfl⟩ := open_
        right
        cases rest with
        | nil => rfl
        | cons third rest =>
          have broken := tail.1
          simp [breaksAfter, separator] at broken
    · rw [List.dropWhile_cons_of_pos (by simp [ends_])]
      exact ih tail

theorem terminator_plain (solid : Solid breaksAfter line) :
    ∀ c ∈ terminator line, separator c = true := by
  intro c member
  rcases solid_terminator line solid with none_ | ⟨own, ends_, one⟩ | two
  · rw [none_] at member
    cases member
  · rw [one] at member
    exact List.mem_singleton.mp member ▸ ends_
  · rw [two] at member
    simp only [List.mem_cons, List.not_mem_nil, or_false] at member
    rcases member with rfl | rfl <;> rfl

/-- A character of a line stands in its text, or it is the last of its terminator or the first
of a carriage return and a line feed. -/
theorem char_placed (line front : List Char) (d : Char) (back : List Char)
    (solid : Solid breaksAfter line) (shape : line = front ++ d :: back) :
    front.length < (lineText line).length ∨
      separator d = true ∧ (back = [] ∨ d = '\r' ∧ back = ['\n']) := by
  by_cases inside : front.length < (lineText line).length
  · exact Or.inl inside
  · right
    have whole := line_whole line
    have rest : terminator line = front.drop (lineText line).length ++ d :: back := by
      have own : (lineText line ++ terminator line).drop (lineText line).length =
          terminator line := List.drop_left
      rw [← List.drop_append_of_le_length (Nat.le_of_not_lt inside), ← shape, ← own, whole]
    have plain := terminator_plain line solid d (by rw [rest]; simp)
    refine ⟨plain, ?_⟩
    rcases solid_terminator line solid with none_ | ⟨c, -, one⟩ | two
    · rw [none_] at rest
      simp at rest
    · rw [one] at rest
      cases lead : front.drop (lineText line).length with
      | nil =>
        rw [lead] at rest
        exact Or.inl (List.cons.inj rest).2.symm
      | cons first lead_ =>
        rw [lead] at rest
        simp at rest
    · rw [two] at rest
      cases lead : front.drop (lineText line).length with
      | nil =>
        rw [lead] at rest
        obtain ⟨rfl, same⟩ := List.cons.inj rest
        exact Or.inr ⟨rfl, same.symm⟩
      | cons first lead_ =>
        rw [lead] at rest
        cases lead_ with
        | nil =>
          simp only [List.cons_append, List.nil_append, List.cons.injEq] at rest
          exact Or.inl rest.2.2.symm
        | cons second lead_ => simp at rest

theorem solid_separators (solid : Solid breaksAfter line) :
    line.filter separator = terminator line := by
  have none_ : (lineText line).filter separator = [] := by
    rw [List.filter_eq_nil_iff]
    intro c member
    simp [text_plain line c member]
  calc
    line.filter separator = (lineText line ++ terminator line).filter separator := by
      rw [line_whole]
    _ = terminator line := by
      rw [List.filter_append, none_, List.nil_append,
        List.filter_eq_self.mpr (terminator_plain line solid)]

theorem terminators_flatten (text : List Char) :
    (terminators text).flatten = text.filter separator := by
  have each : (splitlines text).map terminator =
      (splitlines text).map fun line => line.filter separator := by
    apply List.map_congr_left
    intro line member
    exact (solid_separators line (pieces_solid breaksAfter text line member)).symm
  rw [terminators, each]
  calc
    ((splitlines text).map fun line => line.filter separator).flatten =
        ((splitlines text).flatten).filter separator := List.filter_flatten.symm
    _ = text.filter separator := by rw [splitlines, pieces_flatten]

theorem inner_terminated (text front next : List Char) (lead back : List (List Char))
    (shape : splitlines text = lead ++ front :: next :: back) : terminator front ≠ [] := by
  have ended := pieces_ended breaksAfter text front lead back next shape
  unfold endsBefore at ended
  cases last : front.getLast? with
  | none => simp [last] at ended
  | some c =>
    simp only [last, breaksAfter, Bool.and_eq_true] at ended
    intro none_
    have whole := line_whole front
    rw [none_, List.append_nil] at whole
    have plain := text_plain front c (by
      rw [whole]
      exact List.mem_of_getLast? last)
    rw [ended.1] at plain
    cases plain

theorem terminated_end (solid : Solid breaksAfter line) (ended : terminator line ≠ []) :
    ∃ front z, line = front ++ [z] ∧ separator z = true := by
  have last := List.dropLast_append_getLast ended
  refine ⟨lineText line ++ (terminator line).dropLast, (terminator line).getLast ended, ?_,
    terminator_plain line solid _ (List.getLast_mem ended)⟩
  rw [List.append_assoc, last, line_whole]

theorem last_run (front : List Char) (z : Char) (back : List Char) (ends_ : separator z = true)
    (plain : ∀ c ∈ back, separator c = false) :
    (front ++ z :: back).reverse.takeWhile (fun c => !separator c) = back.reverse := by
  rw [List.reverse_append, List.reverse_cons, List.append_assoc,
    List.takeWhile_append_of_pos (by
      intro c member
      simp [plain c (List.mem_reverse.mp member)]),
    List.singleton_append, List.takeWhile_cons_of_neg (by simp [ends_]), List.append_nil]

theorem after_last (one two : List Char) (y z : Char) (left right : List Char)
    (same : one ++ y :: left = two ++ z :: right) (first : separator y = true)
    (second : separator z = true) (plain : ∀ c ∈ left, separator c = false)
    (smooth : ∀ c ∈ right, separator c = false) : left = right := by
  have runs := last_run one y left first plain
  rw [same, last_run two z right second smooth] at runs
  exact (List.reverse_injective runs).symm

theorem last_two (text : List Char) (lead : List (List Char)) (prev last : List Char)
    (lines : splitlines text = lead ++ [prev, last]) :
    ∃ front z, prev = front ++ [z] ∧ separator z = true ∧
      text = (lead.flatten ++ front) ++ z :: last := by
  have listed : prev ∈ pieces breaksAfter text := by
    rw [show pieces breaksAfter text = _ from lines]
    exact List.mem_append_right _ (.head _)
  obtain ⟨front, z, rfl, ends_⟩ := terminated_end prev (pieces_solid breaksAfter text prev listed)
    (inner_terminated text prev last lead [] lines)
  refine ⟨front, z, rfl, ends_, ?_⟩
  calc
    text = (splitlines text).flatten := (pieces_flatten breaksAfter text).symm
    _ = (lead.flatten ++ front) ++ z :: last := by
      rw [lines]
      simp

end

section

/-- A line whose text is rewritten, with an insertion behind its terminator. -/
structure Edit where
  line : List Char
  body : List Char
  tail : List Char

structure Edit.Kept (edit : Edit) : Prop where
  body_plain : ∀ c ∈ edit.body, separator c = false
  tail_plain : ∀ c ∈ edit.tail, separator c = false
  body_nil : edit.body = [] → lineText edit.line = []
  tail_nil : terminator edit.line = [] → edit.tail = []

def Edit.text (edit : Edit) : List Char := edit.body ++ terminator edit.line ++ edit.tail

/-- The lines of the edited text: an insertion behind a terminator begins the next line. -/
def newLines : List Char → List Edit → List (List Char)
  | lead, [] => if lead = [] then [] else [lead]
  | lead, edit :: edits => (lead ++ edit.body ++ terminator edit.line) :: newLines edit.tail edits

theorem new_lines_nil (lead : List Char) :
    newLines lead [] = if lead = [] then [] else [lead] := rfl

theorem new_lines_cons (lead : List Char) (edit : Edit) (edits : List Edit) :
    newLines lead (edit :: edits) =
      (lead ++ edit.body ++ terminator edit.line) :: newLines edit.tail edits := rfl

theorem plain_solid (front back : List Char) (plain : ∀ c ∈ front, separator c = false)
    (solid : Solid breaksAfter back) : Solid breaksAfter (front ++ back) := by
  induction front with
  | nil => exact solid
  | cons c front ih =>
    apply solid_cons
    · intro _
      simp [breaksAfter, plain c (.head _)]
    · exact ih fun d member => plain d (.tail _ member)

theorem terminator_solid (line : List Char) (solid : Solid breaksAfter line) :
    Solid breaksAfter (terminator line) :=
  solid_back breaksAfter (lineText line) _ ((line_whole line).symm ▸ solid)

variable (lead : List Char)

theorem plain_lines (plain : ∀ c ∈ lead, separator c = false) :
    splitlines lead = if lead = [] then [] else [lead] := by
  split
  · rename_i none_
    rw [none_]
    rfl
  · rename_i filled
    have solid := plain_solid lead [] plain trivial
    rw [List.append_nil] at solid
    have one := pieces_cons breaksAfter lead [] filled solid (fun none_ => absurd rfl none_)
    rwa [List.append_nil] at one

theorem edited_head (tail : List Char) (edits : List Edit)
    (plain : ∀ c ∈ tail, separator c = false) (kept : ∀ edit ∈ edits, edit.Kept)
    (filled : ∀ edit ∈ edits, edit.line ≠ [])
    (feed : (tail ++ (edits.map Edit.text).flatten).head? = some '\n') :
    ∃ edit rest, edits = edit :: rest ∧ edit.line.head? = some '\n' := by
  have other : ∀ (text : List Char), (∀ c ∈ text, separator c = false) →
      text.head? ≠ some '\n' := by
    intro text smooth head
    have ends_ := smooth '\n' (List.mem_of_head? head)
    cases ends_
  cases tail with
  | cons c tail => exact absurd feed (other (c :: tail) plain)
  | nil =>
    cases edits with
    | nil => cases feed
    | cons edit rest =>
      refine ⟨edit, rest, rfl, ?_⟩
      have own := kept edit (.head _)
      by_cases empty : edit.body = []
      · have line := line_whole edit.line
        rw [own.body_nil empty, List.nil_append] at line
        rw [List.nil_append, List.map_cons, List.flatten_cons, Edit.text, empty,
          List.nil_append, line, List.append_assoc,
          List.head?_append_of_ne_nil _ (filled edit (.head _))] at feed
        exact feed
      · rw [List.nil_append, List.map_cons, List.flatten_cons, Edit.text, List.append_assoc,
          List.append_assoc, List.head?_append_of_ne_nil _ empty] at feed
        exact absurd feed (other edit.body own.body_plain)

theorem terminated_ends (front line : List Char) (next : Option Char)
    (solid : Solid breaksAfter line) (ended : terminator line ≠ [])
    (apart : line.getLast? = some '\r' → next ≠ some '\n') :
    endsBefore breaksAfter (front ++ terminator line) next = true := by
  have last : (front ++ terminator line).getLast? = line.getLast? := by
    rw [List.getLast?_append_of_ne_nil _ ended, ← line_whole line,
      List.getLast?_append_of_ne_nil _ ended, line_whole]
  have own : (front ++ terminator line).getLast? = some ((terminator line).getLast ended) := by
    rw [List.getLast?_append_of_ne_nil _ ended, List.getLast?_eq_some_getLast ended]
  have ends_ := terminator_plain line solid _ (List.getLast_mem ended)
  rw [endsBefore, own]
  rw [← last, own] at apart
  by_cases back : (terminator line).getLast ended = '\r'
  · simp [breaksAfter, ends_, apart (congrArg some back)]
  · simp [breaksAfter, ends_, back]

theorem edited_lines (text lead : List Char) (edits : List Edit)
    (lines : splitlines text = edits.map Edit.line) (kept : ∀ edit ∈ edits, edit.Kept)
    (plain : ∀ c ∈ lead, separator c = false) :
    splitlines (lead ++ (edits.map Edit.text).flatten) = newLines lead edits := by
  induction edits generalizing text lead with
  | nil =>
    rw [List.map_nil, List.flatten_nil, List.append_nil, plain_lines lead plain]
    rfl
  | cons edit edits ih =>
    have own := kept edit (.head _)
    have listed : ∀ other ∈ edit :: edits, other.line ∈ splitlines text := by
      intro other member
      rw [lines]
      exact List.mem_map_of_mem member
    have filled : ∀ other ∈ edit :: edits, other.line ≠ [] := fun other member =>
      pieces_filled breaksAfter text other.line (listed other member)
    have line := line_whole edit.line
    by_cases open_ : terminator edit.line = []
    · have last : edits = [] := by
        cases edits with
        | nil => rfl
        | cons next edits =>
          exact absurd open_ (inner_terminated text edit.line next.line [] _ lines)
      have body : edit.body ≠ [] := by
        intro empty
        rw [own.body_nil empty, open_] at line
        exact filled edit (.head _) line.symm
      subst last
      rw [List.map_singleton, List.flatten_singleton, Edit.text, new_lines_cons, new_lines_nil, open_,
        own.tail_nil open_, if_pos rfl, List.append_nil, List.append_nil, List.append_nil,
        plain_lines, if_neg (by simp [body])]
      intro c member
      rcases List.mem_append.mp member with front | back
      · exact plain c front
      · exact own.body_plain c back
    · have later := ih (edits.map Edit.line).flatten edit.tail
        (pieces_rest breaksAfter text _ _ lines)
        (fun other member => kept other (.tail _ member)) own.tail_plain
      have solid : Solid breaksAfter edit.line :=
        pieces_solid breaksAfter text edit.line (listed edit (.head _))
      have joined : Solid breaksAfter (lead ++ edit.body ++ terminator edit.line) := by
        apply plain_solid
        · intro c member
          rcases List.mem_append.mp member with front | back
          · exact plain c front
          · exact own.body_plain c back
        · exact terminator_solid edit.line solid
      have ended : endsBefore breaksAfter (lead ++ edit.body ++ terminator edit.line)
          (edit.tail ++ (edits.map Edit.text).flatten).head? = true := by
        refine terminated_ends _ edit.line _ solid open_ fun back feed => ?_
        obtain ⟨next, rest, rfl, head⟩ := edited_head edit.tail edits own.tail_plain
          (fun other member => kept other (.tail _ member))
          (fun other member => filled other (.tail _ member)) feed
        have ended := pieces_ended breaksAfter text edit.line [] _ next.line lines
        rw [endsBefore, back, head] at ended
        cases ended
      calc
        splitlines (lead ++ ((edit :: edits).map Edit.text).flatten) =
            pieces breaksAfter ((lead ++ edit.body ++ terminator edit.line) ++
              (edit.tail ++ (edits.map Edit.text).flatten)) := by
          simp only [splitlines, List.map_cons, List.flatten_cons, Edit.text, List.append_assoc]
        _ = (lead ++ edit.body ++ terminator edit.line) ::
            pieces breaksAfter (edit.tail ++ (edits.map Edit.text).flatten) :=
          pieces_cons breaksAfter _ _ (by simp [open_]) joined fun _ => ended
        _ = newLines lead (edit :: edits) := by
          rw [new_lines_cons, ← later]
          rfl

theorem plain_terminator (front back : List Char) (plain : ∀ c ∈ front, separator c = false) :
    terminator (front ++ back) = terminator back := by
  unfold terminator
  induction front with
  | nil => rfl
  | cons c front ih =>
    rw [List.cons_append, List.dropWhile_cons_of_pos (by simp [plain c (.head _)])]
    exact ih fun d member => plain d (.tail _ member)

theorem terminator_twice (line : List Char) : terminator (terminator line) = terminator line := by
  rw [← plain_terminator (lineText line) (terminator line) (text_plain line), line_whole]

theorem edited_terminator (edit : Edit) (kept : edit.Kept)
    (plain : ∀ c ∈ lead, separator c = false) :
    terminator (lead ++ edit.body ++ terminator edit.line) = terminator edit.line := by
  rw [List.append_assoc, plain_terminator lead _ plain,
    plain_terminator edit.body _ kept.body_plain, terminator_twice]

theorem new_terminators_iff (edits : List Edit)
    (kept : ∀ edit ∈ edits, edit.Kept) (plain : ∀ c ∈ lead, separator c = false) :
    (newLines lead edits).map terminator = (edits.map Edit.line).map terminator ↔
      (edits.map Edit.tail).getLast?.getD lead = [] := by
  induction edits generalizing lead with
  | nil =>
    rw [new_lines_nil]
    by_cases none_ : lead = []
    · simp [none_]
    · simp [none_]
  | cons edit edits ih =>
    have own := kept edit (.head _)
    have later := ih edit.tail (fun other member => kept other (.tail _ member))
      own.tail_plain
    have last : ((edit :: edits).map Edit.tail).getLast?.getD lead =
        (edits.map Edit.tail).getLast?.getD edit.tail := by
      rw [List.map_cons, List.getLast?_cons, Option.getD_some]
    rw [new_lines_cons, List.map_cons, edited_terminator lead edit own plain, List.map_cons,
      List.map_cons, List.cons.injEq, eq_self, true_and, later, last]

theorem new_line_at (front : List Edit) (edit : Edit) (back : List Edit) :
    (newLines lead (front ++ edit :: back))[front.length]? =
      some ((front.map Edit.tail).getLast?.getD lead ++ edit.body ++ terminator edit.line) := by
  induction front generalizing lead with
  | nil => rfl
  | cons first front ih =>
    rw [List.cons_append, new_lines_cons, List.length_cons, List.getElem?_cons_succ, ih,
      List.map_cons, List.getLast?_cons, Option.getD_some]

theorem new_lines_flatten (edits : List Edit) :
    (newLines lead edits).flatten = lead ++ (edits.map Edit.text).flatten := by
  induction edits generalizing lead with
  | nil =>
    rw [new_lines_nil]
    split
    · simp_all
    · simp
  | cons edit edits ih =>
    rw [new_lines_cons, List.flatten_cons, ih, List.map_cons, List.flatten_cons, Edit.text]
    simp only [List.append_assoc]

/-- Behind the first edits the text goes on with what they put behind their last terminator. -/
theorem new_lines_dropped (front back : List Edit) :
    (newLines lead (front ++ back)).drop front.length =
      newLines ((front.map Edit.tail).getLast?.getD lead) back := by
  induction front generalizing lead with
  | nil => rfl
  | cons first front ih =>
    rw [List.cons_append, new_lines_cons, List.length_cons, List.drop_succ_cons, ih, List.map_cons,
      List.getLast?_cons, Option.getD_some]

theorem new_lines_length (edits : List Edit)
    (none_ : (edits.map Edit.tail).getLast?.getD lead = []) :
    (newLines lead edits).length = edits.length := by
  induction edits generalizing lead with
  | nil =>
    have empty : lead = [] := none_
    rw [new_lines_nil, if_pos empty, List.length_nil, List.length_nil]
  | cons edit edits ih =>
    rw [List.map_cons, List.getLast?_cons, Option.getD_some] at none_
    rw [new_lines_cons, List.length_cons, ih edit.tail none_, List.length_cons]

end
end DosWeb.Library.SplitLines
