import DosWeb.Growth.MaskedCopy
import DosWeb.Growth.ReplacedSpans

/-!
When redaction keeps the lines of a text.
-/

namespace DosWeb.Growth

open Library Library.Pieces Library.SplitLines

section

variable (isWord : Char → Bool)

def pairSpans (pair : List Char × List Char) : List (Nat × Nat) :=
  (lineSpans isWord pair.1 pair.2).map Prod.fst

def replacedAt (content : List Char) (index : Nat) : List (Nat × Nat) :=
  ((linePairs content)[index]?.map fun pair => applied (pairSpans isWord pair)).getD []

/-- The redacted text has the same terminators, its lines without a replaced span are those of
the content, and every event is on a line with one. -/
structure LinesKept (content : List Char) (baseLine : Int) (out : List Char)
    (events : List RedactionEvent) : Prop where
  terminated : terminators out = terminators content
  untouched : ∀ index line, (splitlines content)[index]? = some line →
    replacedAt isWord content index = [] → (splitlines out)[index]? = some line
  located : ∀ event ∈ events, ∃ index : Nat, event.line - baseLine = index ∧
    replacedAt isWord content index ≠ []

/-- The masked copy has as many lines, and a span that is replaced ends before the terminator of
its line, or it starts behind it and the next line has one too. -/
structure LinesFit (content : List Char) : Prop where
  aligned : (splitlines (maskCode content)).length = (splitlines content).length
  within : ∀ index line, (splitlines content)[index]? = some line → terminator line ≠ [] →
    ∀ span ∈ replacedAt isWord content index, span.2 ≤ (lineText line).length ∨
      (line.length ≤ span.1 ∧ replacedAt isWord content (index + 1) ≠ [])

variable (pair : List Char × List Char)

theorem spans_ordered : ∀ span ∈ pairSpans isWord pair, span.1 ≤ span.2 := by
  intro span member
  obtain ⟨found, inside, rfl⟩ := List.mem_map.mp member
  rw [(line_span_starts isWord pair.1 pair.2 found inside).1]
  exact value_end_start pair.1 found.1.1

theorem replaced_spans (span : Nat × Nat) (member : span ∈ applied (pairSpans isWord pair)) :
    span.1 ≤ span.2 ∧ StartsAt pair.1 pair.2 span.1 := by
  have own : span ∈ pairSpans isWord pair :=
    (List.perm_insertionSort spanOrder _).mem_iff.mp (applied_mem 0 _ span member)
  refine ⟨spans_ordered isWord pair span own, ?_⟩
  obtain ⟨found, inside, rfl⟩ := List.mem_map.mp own
  exact (line_span_starts isWord pair.1 pair.2 found inside).2

variable (content : List Char)

section

variable (baseLine : Int) (out : List Char) (events : List RedactionEvent)
  (run : redactSourceContent isWord content baseLine = .ok (out, events))

include run

theorem events_located : ∀ event ∈ events, ∃ index : Nat, event.line - baseLine = index ∧
      replacedAt isWord content index ≠ [] := by
  intro event member
  unfold redactSourceContent at run
  split at run
  · cases run
  · cases run
    obtain ⟨⟨pair, index⟩, listed, own⟩ := List.mem_flatMap.mp (List.mem_of_mem_take member)
    obtain ⟨found, inside, rfl⟩ := List.mem_map.mp own
    have at_ := List.mk_mem_zipIdx_iff_getElem?.mp listed
    refine ⟨index, by dsimp only; omega, ?_⟩
    rw [replacedAt, at_, Option.map_some, Option.getD_some, Ne, applied_nil_iff]
    exact List.ne_nil_of_mem (List.mem_map_of_mem inside)

theorem redacted_text : out = ((linePairs content).map (redactedLine isWord)).flatten := by
  unfold redactSourceContent at run
  split at run
  · cases run
  · cases run
    rfl

end

theorem masked_fewer : (splitlines (maskCode content)).length ≤ (splitlines content).length :=
  (coarser_pieces breaksAfter _ _ (mask_coarser .code content trivial)).1

theorem pair_veils (aligned : (splitlines (maskCode content)).length =
    (splitlines content).length) :
    ∀ pair ∈ linePairs content, List.Forall₂ Veils pair.1 pair.2 := by
  apply flatten_pairs Veils
  · exact (coarser_pieces breaksAfter _ _ (mask_coarser .code content trivial)).2 aligned
  · unfold splitlines
    rw [pieces_flatten, pieces_flatten]
    exact mask_chars .code content

theorem pair_solid (pair : List Char × List Char) (member : pair ∈ linePairs content) :
    Solid breaksAfter pair.1 ∧ Solid breaksAfter pair.2 := by
  have both := List.of_mem_zip member
  exact ⟨pieces_solid breaksAfter _ _ both.1, pieces_solid breaksAfter _ _ both.2⟩

theorem pair_line (index : Nat) (pair : List Char × List Char)
    (found : (linePairs content)[index]? = some pair) :
    (splitlines content)[index]? = some pair.1 := (List.getElem?_zip_eq_some.mp found).1

theorem pair_at (aligned : (splitlines (maskCode content)).length = (splitlines content).length)
    (index : Nat) (line : List Char) (found : (splitlines content)[index]? = some line) :
    ∃ masked, (linePairs content)[index]? = some (line, masked) := by
  have inside : index < (splitlines (maskCode content)).length := by
    rw [aligned]
    exact (List.getElem?_eq_some_iff.mp found).1
  exact ⟨_, List.getElem?_zip_eq_some.mpr ⟨found, List.getElem?_eq_getElem inside⟩⟩

theorem pairs_lines (aligned : (splitlines (maskCode content)).length =
    (splitlines content).length) : (linePairs content).map Prod.fst = splitlines content :=
  List.map_fst_zip aligned.ge

structure EditOf (pair : List Char × List Char) (edit : Edit) : Prop where
  line : edit.line = pair.1
  parted : Parted (lineText pair.1) (terminator pair.1) 0
    ((pairSpans isWord pair).insertionSort spanOrder) edit.body edit.tail

theorem token_or_text (text : List Char) (plain : ∀ c ∈ text, separator c = false) (c : Char)
    (member : c ∈ text ∨ c ∈ redactedToken) : separator c = false := by
  rcases member with own | token
  · exact plain c own
  · exact token_plain c token

theorem edit_kept (edit : Edit) (own : EditOf isWord pair edit) : edit.Kept where
  body_plain := fun c member =>
    token_or_text _ (text_plain pair.1) c (own.parted.body_chars c member)
  tail_plain := fun c member => token_plain c (own.parted.tail_chars c member)
  body_nil := fun none_ => own.line ▸ own.parted.body_nil none_
  tail_nil := fun none_ => own.parted.tail_nil (own.line ▸ none_)

theorem edit_text (edit : Edit) (own : EditOf isWord pair edit) :
    redactedLine isWord pair = edit.text := by
  have whole := own.parted.whole
  rw [line_whole] at whole
  rw [Edit.text, own.line, ← whole]
  rfl

theorem pairs_edited (text : List Char) (pairs : List (List Char × List Char))
    (lines : pairs.map Prod.fst = splitlines text)
    (fits : ∀ pair ∈ pairs, terminator pair.1 ≠ [] → ∀ span ∈ applied (pairSpans isWord pair),
      span.2 ≤ (lineText pair.1).length ∨ pair.1.length ≤ span.1) :
    ∃ edit : List Char × List Char → Edit, (∀ pair ∈ pairs, EditOf isWord pair (edit pair)) ∧
      splitlines (pairs.map (redactedLine isWord)).flatten = newLines [] (pairs.map edit) := by
  have each : ∀ pair, ∃ edit, pair ∈ pairs → EditOf isWord pair edit := by
    intro pair
    by_cases member : pair ∈ pairs
    · obtain ⟨body, tail, parted⟩ := line_parted (lineText pair.1) (terminator pair.1)
        (pairSpans isWord pair) (spans_ordered isWord pair) (by
          rw [line_whole]
          exact fits pair member)
      exact ⟨⟨pair.1, body, tail⟩, fun _ => ⟨rfl, parted⟩⟩
    · exact ⟨⟨[], [], []⟩, fun inside => absurd inside member⟩
  choose edit own using each
  refine ⟨edit, own, ?_⟩
  have edited : splitlines text = (pairs.map edit).map Edit.line := by
    rw [← lines, List.map_map]
    exact List.map_congr_left fun pair member => (own pair member).line.symm
  have texts : pairs.map (redactedLine isWord) = (pairs.map edit).map Edit.text := by
    rw [List.map_map]
    exact List.map_congr_left fun pair member => edit_text isWord pair _ (own pair member)
  rw [texts, ← edited_lines text [] _ edited _ nofun]
  · rfl
  · intro other member
    obtain ⟨pair, inside, rfl⟩ := List.mem_map.mp member
    exact edit_kept isWord pair _ (own pair inside)

theorem redacted_lines (aligned : (splitlines (maskCode content)).length =
    (splitlines content).length) (fits : ∀ pair ∈ linePairs content, terminator pair.1 ≠ [] →
      ∀ span ∈ applied (pairSpans isWord pair),
        span.2 ≤ (lineText pair.1).length ∨ pair.1.length ≤ span.1) :
    ∃ edit : List Char × List Char → Edit,
      (∀ pair ∈ linePairs content, EditOf isWord pair (edit pair)) ∧
      splitlines ((linePairs content).map (redactedLine isWord)).flatten =
        newLines [] ((linePairs content).map edit) :=
  pairs_edited isWord content (linePairs content) (pairs_lines content aligned) fits

theorem replaced_at (index : Nat) (pair : List Char × List Char)
    (found : (linePairs content)[index]? = some pair) :
    replacedAt isWord content index = applied (pairSpans isWord pair) := by
  rw [replacedAt, found, Option.map_some, Option.getD_some]

theorem replaced_past (index : Nat)
    (past : (linePairs content).length ≤ index) : replacedAt isWord content index = [] := by
  rw [replacedAt, List.getElem?_eq_none past]
  rfl

theorem tail_none (fit : LinesFit isWord content) (index : Nat)
    (pair : List Char × List Char) (found : (linePairs content)[index]? = some pair) (edit : Edit)
    (own : EditOf isWord pair edit) (later : replacedAt isWord content (index + 1) = []) :
    edit.tail = [] := by
  by_cases ended : terminator pair.1 = []
  · exact own.parted.tail_nil ended
  · refine (own.parted.tail_iff ended).mpr fun span member => ?_
    have inside : span ∈ replacedAt isWord content index :=
      replaced_at isWord content index pair found ▸ member
    rcases fit.within index pair.1 (pair_line content index pair found) ended span inside with
      within | ⟨-, some_⟩
    · exact within
    · exact absurd later some_

theorem lead_none (fit : LinesFit isWord content) (edit : List Char × List Char → Edit)
    (own : ∀ pair ∈ linePairs content, EditOf isWord pair (edit pair))
    (front back : List (List Char × List Char)) (shape : linePairs content = front ++ back)
    (later : replacedAt isWord content front.length = []) :
    ((front.map edit).map Edit.tail).getLast?.getD [] = [] := by
  rcases List.eq_nil_or_concat front with rfl | ⟨lead, pair, rfl⟩
  · rfl
  · rw [List.concat_eq_append] at shape later ⊢
    rw [List.map_append, List.map_append, List.map_singleton, List.map_singleton,
      List.getLast?_concat, Option.getD_some]
    rw [List.length_append, List.length_singleton] at later
    have found : (linePairs content)[lead.length]? = some pair := by
      rw [shape, List.append_assoc, List.getElem?_append_right (le_refl _), Nat.sub_self]
      rfl
    exact tail_none isWord content fit lead.length pair found (edit pair)
      (own pair (List.mem_of_getElem? found)) later

theorem redacted_terminators_iff (aligned : (splitlines (maskCode content)).length =
    (splitlines content).length) (edit : List Char × List Char → Edit)
    (own : ∀ pair ∈ linePairs content, EditOf isWord pair (edit pair))
    (lines : splitlines ((linePairs content).map (redactedLine isWord)).flatten =
      newLines [] ((linePairs content).map edit)) :
    terminators ((linePairs content).map (redactedLine isWord)).flatten = terminators content ↔
      (((linePairs content).map edit).map Edit.tail).getLast?.getD [] = [] := by
  have firsts : ((linePairs content).map edit).map Edit.line = splitlines content := by
    rw [← pairs_lines content aligned, List.map_map]
    exact List.map_congr_left fun pair member => (own pair member).line
  rw [terminators, terminators, lines, ← firsts]
  refine new_terminators_iff [] _ ?_ (List.forall_mem_nil _)
  intro other member
  obtain ⟨pair, inside, rfl⟩ := List.mem_map.mp member
  exact edit_kept isWord pair _ (own pair inside)

theorem kept_of_fit (fit : LinesFit isWord content) :
    terminators ((linePairs content).map (redactedLine isWord)).flatten = terminators content ∧
      ∀ index line, (splitlines content)[index]? = some line →
        replacedAt isWord content index = [] →
        (splitlines ((linePairs content).map (redactedLine isWord)).flatten)[index]? =
          some line := by
  obtain ⟨edit, own, lines⟩ := redacted_lines isWord content fit.aligned (by
    intro pair member ended span inside
    obtain ⟨index, found⟩ := List.mem_iff_getElem?.mp member
    rw [← replaced_at isWord content index pair found] at inside
    exact (fit.within index pair.1 (pair_line content index pair found) ended span inside).imp id
      And.left)
  constructor
  · exact (redacted_terminators_iff isWord content fit.aligned edit own lines).mpr
      (lead_none isWord content fit edit own _ [] (List.append_nil _).symm
        (replaced_past isWord content _ (le_refl _)))
  · intro index line at_ none_
    obtain ⟨masked, found⟩ := pair_at content fit.aligned index line at_
    obtain ⟨shape, size⟩ := items_split _ index _ found
    have mine := own (line, masked) (List.mem_of_getElem? found)
    have body : (edit (line, masked)).body = lineText line := by
      rw [replaced_at isWord content index _ found] at none_
      exact mine.parted.untouched none_
    have here := new_line_at [] (((linePairs content).take index).map edit) (edit (line, masked))
      (((linePairs content).drop (index + 1)).map edit)
    rw [← List.map_cons, ← List.map_append, ← shape, List.length_map, size,
      lead_none isWord content fit edit own _ _ shape (by rw [size]; exact none_), body, mine.line,
      List.nil_append, line_whole] at here
    rw [lines, here]

end

section

variable (isWord : Char → Bool)

theorem line_counted (pair : List Char × List Char) : (redactedLine isWord pair).countP separator +
        ((applied (pairSpans isWord pair)).map fun span =>
          ((pair.1.drop span.1).take (span.2 - span.1)).countP separator).sum =
      pair.1.countP separator := by
  have counted := separators_counted pair.1 0 ((pairSpans isWord pair).insertionSort spanOrder) (by
    intro span member
    exact spans_ordered isWord pair span
      ((List.perm_insertionSort spanOrder _).mem_iff.mp member))
  rw [List.drop_zero] at counted
  exact counted

theorem counted_lines (rewrite : List Char × List Char → List Char)
    (less : ∀ pair, (rewrite pair).countP separator ≤ pair.1.countP separator)
    (lines masked : List (List Char)) :
    ((lines.zip masked).map rewrite).flatten.countP separator ≤ lines.flatten.countP separator ∧
      (((lines.zip masked).map rewrite).flatten.countP separator = lines.flatten.countP separator →
        (∀ pair ∈ lines.zip masked, (rewrite pair).countP separator = pair.1.countP separator) ∧
          ∀ line ∈ lines.drop masked.length, line.countP separator = 0) := by
  induction lines generalizing masked with
  | nil => simp
  | cons line lines ih =>
    cases masked with
    | nil =>
      refine ⟨Nat.zero_le _, fun same => ⟨nofun, fun other member => ?_⟩⟩
      have none_ : (line :: lines).flatten.countP separator = 0 := same.symm
      rw [List.countP_eq_zero] at none_ ⊢
      exact fun c inside => none_ c (List.mem_flatten.mpr ⟨other, member, inside⟩)
    | cons copy masked =>
      have own := less (line, copy)
      have later := ih masked
      simp only [List.zip_cons_cons, List.map_cons, List.flatten_cons, List.countP_append,
        List.length_cons, List.drop_succ_cons, List.forall_mem_cons]
      dsimp only at own
      refine ⟨by omega, fun same => ?_⟩
      have rest := later.2 (by omega)
      exact ⟨⟨by omega, rest.1⟩, rest.2⟩

variable (content : List Char)

theorem counts_kept (same : terminators ((linePairs content).map (redactedLine isWord)).flatten =
      terminators content) : (∀ pair ∈ linePairs content, ∀ span ∈ applied (pairSpans isWord pair),
        ((pair.1.drop span.1).take (span.2 - span.1)).countP separator = 0) ∧
      ∀ line ∈ (splitlines content).drop (splitlines (maskCode content)).length,
        terminator line = [] := by
  have counted : ((linePairs content).map (redactedLine isWord)).flatten.countP separator =
      (splitlines content).flatten.countP separator := by
    rw [splitlines, pieces_flatten, List.countP_eq_length_filter, List.countP_eq_length_filter,
      ← terminators_flatten, ← terminators_flatten, same]
  have each := (counted_lines (redactedLine isWord) (by
    intro pair
    have own := line_counted isWord pair
    omega) (splitlines content) (splitlines (maskCode content))).2 counted
  constructor
  · intro pair member span inside
    have own := line_counted isWord pair
    rw [each.1 pair member] at own
    have none_ := List.sum_eq_zero_iff_forall_eq_nat.mp (Nat.add_eq_left.mp own)
    exact none_ _ (List.mem_map_of_mem inside)
  · intro line member
    have none_ := each.2 line member
    rw [List.countP_eq_length_filter, List.length_eq_zero_iff,
      solid_separators line (pieces_solid breaksAfter content line (List.mem_of_mem_drop member))]
      at none_
    exact none_

theorem slice_keeps (text : List Char) (start stop index : Nat) (c : Char)
    (at_ : text[index]? = some c) (ends_ : separator c = true) (first : start ≤ index)
    (second : index < stop) : ((text.drop start).take (stop - start)).countP separator ≠ 0 := by
  intro none_
  have member : c ∈ (text.drop start).take (stop - start) := by
    apply List.mem_of_getElem? (i := index - start)
    rw [List.getElem?_take_of_lt (by omega), List.getElem?_drop, Nat.add_sub_cancel' first, at_]
  have plain := List.countP_eq_zero.mp none_ c member
  exact plain ends_

theorem fewer_shape (fewer : (splitlines (maskCode content)).length ≠ (splitlines content).length)
    (open_ : ∀ line ∈ (splitlines content).drop (splitlines (maskCode content)).length,
      terminator line = []) :
    ∃ lead prev last mlead mlast, splitlines content = lead ++ [prev, last] ∧
      splitlines (maskCode content) = mlead ++ [mlast] ∧ lead.length = mlead.length := by
  have less := masked_fewer content
  have whole := List.take_append_drop (splitlines (maskCode content)).length (splitlines content)
  cases rest : (splitlines content).drop (splitlines (maskCode content)).length with
  | nil =>
    have size := congrArg List.length rest
    rw [List.length_drop, List.length_nil] at size
    omega
  | cons last more =>
    rw [rest] at whole open_
    have single : more = [] := by
      cases more with
      | nil => rfl
      | cons next more =>
        exact absurd (open_ last (.head _))
          (inner_terminated content last next _ more whole.symm)
    subst single
    have size := congrArg List.length whole
    rw [List.length_append, List.length_take, List.length_singleton] at size
    rcases List.eq_nil_or_concat (splitlines (maskCode content)) with none_ | ⟨mlead, mlast, many⟩
    · have text := (pieces_nil_iff breaksAfter _).mp none_
      have chars := (mask_chars .code content).length_eq
      rw [show maskFrom .code content = [] from text] at chars
      rw [List.length_eq_zero_iff.mp chars] at size
      simp [splitlines, pieces] at size
    · rw [List.concat_eq_append] at many
      have copies := congrArg List.length many
      rw [List.length_append, List.length_singleton] at copies
      rcases List.eq_nil_or_concat
        ((splitlines content).take (splitlines (maskCode content)).length) with
        none_ | ⟨lead, prev, lines⟩
      · have short := congrArg List.length none_
        rw [List.length_take, List.length_nil] at short
        omega
      · rw [List.concat_eq_append] at lines
        have long := congrArg List.length lines
        rw [List.length_append, List.length_take, List.length_singleton] at long
        refine ⟨lead, prev, last, mlead, mlast, ?_, many, by omega⟩
        rw [← whole, lines, List.append_assoc]
        rfl

theorem token_chars : ∀ c ∈ redactedToken,
    c ≠ '(' ∧ operator c = false ∧ Text.isSpace c = false ∧ c ≠ '\n' := by
  have all : redactedToken.all (fun c => c ≠ '(' && !operator c && !Text.isSpace c &&
      c ≠ '\n') = true := by decide
  intro c member
  simpa [and_assoc] using List.all_eq_true.mp all c member

/-- No span of the last masked line starts behind a terminated line that only tokens follow. -/
theorem start_before_tokens (lead : List (List Char))
    (front : List Char) (z : Char) (last : List Char) (mlead : List (List Char))
    (mlast : List Char) (lines : splitlines content = lead ++ [front ++ [z], last])
    (copies : splitlines (maskCode content) = mlead ++ [mlast])
    (sizes : lead.length = mlead.length) (ends_ : separator z = true) (filled : last ≠ [])
    (tokens : ∀ c ∈ last, c ∈ redactedToken) (start : Nat)
    (starts : StartsAt (front ++ [z]) mlast start) : start < (front ++ [z]).length := by
  by_contra past
  rw [List.length_append, List.length_singleton] at past
  have solid : Solid breaksAfter mlast := pieces_solid breaksAfter (maskCode content) mlast (by
    rw [show pieces breaksAfter (maskCode content) = mlead ++ [mlast] from copies]
    exact List.mem_append_right _ (.head _))
  have reach : lead.flatten.length ≤ mlead.flatten.length := by
    have far := coarser_reach breaksAfter _ _ (mask_coarser .code content trivial) lead.length
    rw [show pieces breaksAfter content = _ from lines,
      show pieces breaksAfter (maskFrom .code content) = _ from copies, List.take_left, sizes,
      List.take_left] at far
    exact far
  have text := pieces_flatten breaksAfter content
  rw [show pieces breaksAfter content = _ from lines] at text
  have copy := pieces_flatten breaksAfter (maskCode content)
  rw [show pieces breaksAfter (maskCode content) = _ from copies, List.flatten_append,
    List.flatten_singleton] at copy
  have veils := mask_chars .code content
  rw [show maskFrom .code content = _ from copy.symm] at veils
  have whole : content = (lead.flatten ++ front) ++ z :: last := by
    rw [← text]
    simp
  have apart : ∀ (own : List Char) (d : Char) (back : List Char), mlast = own ++ d :: back →
      d ≠ '#' → front.length ≤ own.length →
      (own.length = front.length ∧ d = z ∧ ∃ x rest, back = x :: rest ∧ x ≠ '\n') ∨
        d ∈ redactedToken := by
    intro own d back shape shown far
    rw [shape, ← List.append_assoc] at veils
    obtain ⟨before, after, split, size, behind⟩ := veiled_at content _ d back veils shown
    rw [List.length_append] at size
    rw [whole] at split
    rcases place_after before after _ last d z split.symm (by
      rw [List.length_append]
      omega) with ⟨same, rfl, rfl⟩ | inside
    · left
      rw [List.length_append] at same
      refine ⟨by omega, rfl, ?_⟩
      obtain ⟨c, others, rfl⟩ := List.exists_cons_of_ne_nil filled
      obtain ⟨x, rest, kept, -, rfl⟩ := List.forall₂_cons_left_iff.mp behind
      refine ⟨x, rest, rfl, ?_⟩
      rcases kept with rfl | rfl
      · exact (token_chars x (tokens x (.head _))).2.2.2
      · decide
    · exact Or.inr (tokens d inside)
  cases starts with
  | comma own back shape =>
    have size := congrArg List.length shape
    simp only [List.length_append, List.length_cons, List.length_nil] at size
    have last_ := (List.append_inj shape (by omega)).2
    obtain ⟨rfl, -⟩ := List.cons.inj last_
    cases ends_
  | parenthesis own back shape =>
    rcases apart own '(' back shape (by decide) (by omega) with ⟨-, rfl, -⟩ | token
    · cases ends_
    · exact (token_chars '(' token).1 rfl
  | assigned own d back shape kind next =>
    have shown : d ≠ '#' := by
      rintro rfl
      rcases kind with sign | gap
      · cases sign
      · cases gap
    rcases apart own d back shape shown (by omega) with ⟨-, rfl, x, rest, rfl, other⟩ | token
    · have open_ := solid_inside breaksAfter own d (x :: rest) (shape ▸ solid)
        (List.cons_ne_nil _ _)
      simp [breaksAfter, ends_, other] at open_
    · rcases kind with sign | gap
      · rw [(token_chars d token).2.1] at sign
        cases sign
      · rw [(token_chars d token).2.2.1] at gap
        cases gap

theorem span_apart (text : List Char) (span : Nat × Nat) (index : Nat) (c : Char)
    (at_ : text[index]? = some c) (ends_ : separator c = true)
    (kept : ((text.drop span.1).take (span.2 - span.1)).countP separator = 0) :
    span.2 ≤ index ∨ index < span.1 := by
  by_contra inside
  exact slice_keeps text span.1 span.2 index c at_ ends_ (by omega) (by omega) kept

theorem aligned_of_kept (same : terminators ((linePairs content).map
    (redactedLine isWord)).flatten = terminators content)
    (untouched : ∀ index line, (splitlines content)[index]? = some line →
      replacedAt isWord content index = [] →
      (splitlines ((linePairs content).map (redactedLine isWord)).flatten)[index]? = some line) :
    (splitlines (maskCode content)).length = (splitlines content).length := by
  by_contra fewer
  obtain ⟨slices, open_⟩ := counts_kept isWord content same
  obtain ⟨lead, prev, last, mlead, mlast, lines, copies, sizes⟩ := fewer_shape content fewer open_
  obtain ⟨front, z, rfl, ends_, -⟩ := last_two content lead prev last lines
  have pairs : linePairs content = lead.zip mlead ++ [(front ++ [z], mlast)] := by
    rw [linePairs, lines, copies, List.zip_append sizes]
    rfl
  have member : (front ++ [z], mlast) ∈ linePairs content := by
    rw [pairs]
    exact List.mem_append_right _ (.head _)
  have closing : terminator last = [] := by
    apply open_
    rw [lines, copies, List.length_append, List.length_singleton, ← sizes]
    simp
  have plain : ∀ c ∈ last, separator c = false := by
    have whole := line_whole last
    rw [closing, List.append_nil] at whole
    rw [← whole]
    exact text_plain last
  have filled : last ≠ [] := pieces_filled breaksAfter content last (by
    rw [show pieces breaksAfter content = _ from lines]
    simp)
  have fits : ∀ span ∈ applied (pairSpans isWord (front ++ [z], mlast)),
      span.2 ≤ front.length ∨ (front ++ [z]).length ≤ span.1 := by
    intro span inside
    have apart := span_apart (front ++ [z]) span front.length z List.getElem?_concat_length ends_
      (slices _ member span inside)
    rw [List.length_append, List.length_singleton]
    omega
  obtain ⟨body, tail, parted⟩ :=
    line_parted front [z] _ (spans_ordered isWord (front ++ [z], mlast)) fun _ => fits
  have out : ((linePairs content).map (redactedLine isWord)).flatten =
      (((lead.zip mlead).map (redactedLine isWord)).flatten ++ body) ++ z :: tail := by
    rw [pairs, List.map_append, List.flatten_append, List.map_singleton, List.flatten_singleton,
      show redactedLine isWord (front ++ [z], mlast) = _ from parted.whole]
    simp only [List.append_assoc, List.singleton_append]
  have kept := untouched (lead.length + 1) last (by
    rw [lines, List.getElem?_append_right (by omega)]
    simp) (replaced_past isWord content _ (by
      rw [pairs, List.length_append, List.length_zip, List.length_singleton]
      omega))
  have count := congrArg List.length same
  rw [terminators, terminators, List.length_map, List.length_map, lines, List.length_append]
    at count
  obtain ⟨before, final, halves⟩ := items_last_two _ lead.length last count kept
  obtain ⟨start, y, -, stops, text⟩ := last_two _ before final last halves
  have token : last = tail := by
    rw [out] at text
    exact (after_last _ _ z y tail last text ends_ stops
      (fun c inside => token_plain c (parted.tail_chars c inside)) plain).symm
  have some_ : ¬ ∀ span ∈ applied (pairSpans isWord (front ++ [z], mlast)),
      span.2 ≤ front.length := by
    intro all
    exact filled (token.trans ((parted.tail_iff (List.cons_ne_nil _ _)).mpr all))
  apply some_
  intro span inside
  rcases fits span inside with early | late
  · exact early
  · have early := start_before_tokens content lead front z last mlead mlast lines copies sizes
      ends_ filled (token ▸ parted.tail_chars) span.1
      (replaced_spans isWord (front ++ [z], mlast) span inside).2
    omega

end

variable (isWord : Char → Bool)

section

variable (content : List Char)
  (same : terminators ((linePairs content).map (redactedLine isWord)).flatten = terminators content)

include same

theorem spans_apart
    (aligned : (splitlines (maskCode content)).length = (splitlines content).length) :
    ∀ pair ∈ linePairs content, terminator pair.1 ≠ [] → ∀ span ∈ applied (pairSpans isWord pair),
        span.2 ≤ (lineText pair.1).length ∨ pair.1.length ≤ span.1 := by
  intro pair member ended span inside
  have solid := pair_solid content pair member
  have starts := (replaced_spans isWord pair span inside).2
  rcases start_placed pair.1 pair.2 span.1 (pair_veils content aligned pair member) solid.1 solid.2
    starts with within | past
  · obtain ⟨c, rest, back⟩ := List.exists_cons_of_ne_nil ended
    have ends_ := terminator_plain pair.1 solid.1 c (back ▸ (.head _))
    have at_ : (lineText pair.1 ++ terminator pair.1)[(lineText pair.1).length]? = some c := by
      rw [List.getElem?_append_right (le_refl _), Nat.sub_self, back]
      rfl
    rw [line_whole] at at_
    have apart := span_apart pair.1 span _ c at_ ends_
      ((counts_kept isWord content same).1 pair member span inside)
    exact Or.inl (apart.resolve_right (Nat.not_lt.mpr within))
  · exact Or.inr past.ge

theorem fit_of_kept (untouched : ∀ index line, (splitlines content)[index]? = some line →
      replacedAt isWord content index = [] → (splitlines ((linePairs content).map (redactedLine isWord)).flatten)[index]? = some line) :
    LinesFit isWord content := by
  have aligned := aligned_of_kept isWord content same untouched
  have fits := spans_apart isWord content same aligned
  obtain ⟨edit, own, lines⟩ := redacted_lines isWord content aligned fits
  refine ⟨aligned, fun index line at_ ended span inside => ?_⟩
  obtain ⟨masked, found⟩ := pair_at content aligned index line at_
  have member := List.mem_of_getElem? found
  rw [replaced_at isWord content index _ found] at inside
  refine (fits _ member ended span inside).imp id fun past => ⟨past, fun later => ?_⟩
  have mine := own (line, masked) member
  obtain ⟨shape, size⟩ := items_split _ index _ found
  have some_ : (edit (line, masked)).tail ≠ [] := by
    intro none_
    have within := (mine.parted.tail_iff ended).mp none_ span inside
    have ordered := (replaced_spans isWord (line, masked) span inside).1
    have whole := congrArg List.length (line_whole line)
    have longer := List.length_pos_iff.mpr ended
    rw [List.length_append] at whole
    dsimp only at past within
    omega
  cases rest : (linePairs content).drop (index + 1) with
  | nil =>
    have last := (redacted_terminators_iff isWord content aligned edit own lines).mp same
    rw [shape, rest, List.map_append, List.map_append, List.map_singleton, List.map_singleton,
      List.getLast?_concat, Option.getD_some] at last
    exact some_ last
  | cons next back =>
    rw [rest] at shape
    have following : (linePairs content)[index + 1]? = some next := by
      rw [← List.head?_drop, rest]
      rfl
    have kept := untouched (index + 1) next.1 (pair_line content _ next following) later
    have here := new_line_at [] (((linePairs content).take index).map edit ++
      [edit (line, masked)]) (edit next) (back.map edit)
    have again := own next (List.mem_of_getElem? following)
    rw [replaced_at isWord content _ next following] at later
    have edits : ((linePairs content).take index).map edit ++ [edit (line, masked)] ++
        edit next :: back.map edit = (linePairs content).map edit := by
      conv_rhs => rw [shape]
      simp
    rw [edits, ← lines, List.length_append, List.length_map, size, List.length_singleton, kept,
      List.map_append, List.map_singleton, List.getLast?_concat, Option.getD_some,
      again.parted.untouched later, again.line, List.append_assoc, List.drop_zero, line_whole]
      at here
    have sizes := congrArg List.length (Option.some.inj here)
    rw [List.length_append] at sizes
    exact some_ (List.length_eq_zero_iff.mp (by omega))

end

/-- Redaction keeps the lines of a text exactly where its masked copy has as many lines and every
replaced value ends before the terminator of its line, or starts behind it and is followed by a
line with another one. -/
theorem redacted_lines_iff (content : List Char) (baseLine : Int) (out : List Char)
    (events : List RedactionEvent)
    (run : redactSourceContent isWord content baseLine = .ok (out, events)) :
    LinesKept isWord content baseLine out events ↔ LinesFit isWord content := by
  have located := events_located isWord content baseLine out events run
  have text := redacted_text isWord content baseLine out events run
  constructor
  · intro kept
    subst text
    exact fit_of_kept isWord content kept.terminated kept.untouched
  · intro fit
    subst text
    obtain ⟨terminated, untouched⟩ := kept_of_fit isWord content fit
    exact ⟨terminated, untouched, located⟩

def asciiWord (c : Char) : Bool := c.isAlphanum || c = '_'

theorem redacted_lines_sample : LinesKept asciiWord "String token = \"abc\";\r\n".toList 7
        "String token = [REDACTED];\r\n".toList [⟨7, "credential_assignment"⟩] ↔
      LinesFit asciiWord "String token = \"abc\";\r\n".toList :=
  redacted_lines_iff asciiWord _ 7 _ _ (by decide)

/-- A value on the next line stays, and the token is put before it. -/
theorem value_line_changed :
    ¬ ∀ (content : List Char) (baseLine : Int) (out : List Char) (events : List RedactionEvent),
      redactSourceContent asciiWord content baseLine = .ok (out, events) →
        LinesKept asciiWord content baseLine out events := by
  intro all
  have kept := all "password =\n  \"abc\";\n".toList 1
    "password =\n[REDACTED]  \"abc\";\n".toList [⟨1, "credential_assignment"⟩] (by decide)
  have changed := kept.untouched 1 "  \"abc\";\n".toList (by decide) (by decide)
  revert changed
  decide

end DosWeb.Growth
