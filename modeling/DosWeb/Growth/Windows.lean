import DosWeb.Growth.Excerpts

/-!
The excerpt around a line against the same lines of the whole file, both redacted.
-/

namespace DosWeb.Growth

open Library Library.Pieces Library.SplitLines Library.FileLines

section

variable (isWord : Char → Bool)

/-- The events of some lines, the first of which has a number. -/
def lineEvents (first : Int) (pairs : List (List Char × List Char)) : List RedactionEvent :=
  pairs.zipIdx.flatMap fun item =>
    (lineSpans isWord item.1.1 item.1.2).map fun found => ⟨first + item.2, found.2⟩

theorem redacted_events (content : List Char) (baseLine : Int) (out : List Char)
    (events : List RedactionEvent)
    (run : redactSourceContent isWord content baseLine = .ok (out, events)) :
    events = (lineEvents isWord baseLine (linePairs content)).take maxEvents := by
  unfold redactSourceContent at run
  split at run
  · cases run
  · cases run
    rfl

theorem line_events_cons (first : Int) (pair : List Char × List Char)
    (pairs : List (List Char × List Char)) : lineEvents isWord first (pair :: pairs) =
      ((lineSpans isWord pair.1 pair.2).map fun found => ⟨first, found.2⟩) ++
        lineEvents isWord (first + 1) pairs := by
  unfold lineEvents
  rw [List.zipIdx_cons, List.flatMap_cons, List.zipIdx_succ, List.flatMap_map]
  congr 1
  · simp
  · apply List.flatMap_congr
    intro item _
    apply List.map_congr_left
    intro found _
    simp only [RedactionEvent.mk.injEq, and_true]
    omega

theorem line_events_append (first : Int) (front back : List (List Char × List Char)) :
    lineEvents isWord first (front ++ back) =
      lineEvents isWord first front ++ lineEvents isWord (first + front.length) back := by
  induction front generalizing first with
  | nil => simp [lineEvents]
  | cons pair front ih =>
    have behind : first + 1 + front.length = first + (pair :: front).length := by
      rw [List.length_cons]
      omega
    rw [List.cons_append, line_events_cons, line_events_cons, ih, behind, List.append_assoc]

theorem line_events_placed (first : Int) (pairs : List (List Char × List Char)) :
    ∀ event ∈ lineEvents isWord first pairs,
      first ≤ event.line ∧ event.line < first + pairs.length := by
  induction pairs generalizing first with
  | nil => nofun
  | cons pair pairs ih =>
    intro event member
    rw [line_events_cons] at member
    rw [List.length_cons]
    rcases List.mem_append.mp member with own | later
    · obtain ⟨found, -, rfl⟩ := List.mem_map.mp own
      dsimp only
      omega
    · have placed := ih (first + 1) event later
      omega

def inWindow (startLine endLine : Nat) (event : RedactionEvent) : Bool :=
  (startLine : Int) ≤ event.line && event.line ≤ (endLine : Int)

theorem window_events (startLine endLine : Nat) (before inside after : List RedactionEvent)
    (early : ∀ event ∈ before, event.line < startLine)
    (middle : ∀ event ∈ inside, startLine ≤ event.line ∧ event.line ≤ endLine)
    (late : ∀ event ∈ after, endLine < event.line) (count : Nat) :
    ((before ++ inside ++ after).take count).filter (inWindow startLine endLine) =
      inside.take (count - before.length) := by
  have none_ : (before.take count).filter (inWindow startLine endLine) = [] := by
    rw [List.filter_eq_nil_iff]
    intro event member
    have own := early event (List.mem_of_mem_take member)
    simp only [inWindow, Bool.and_eq_true, decide_eq_true_eq]
    omega
  have all : (inside.take (count - before.length)).filter (inWindow startLine endLine) =
      inside.take (count - before.length) := by
    rw [List.filter_eq_self]
    intro event member
    have own := middle event (List.mem_of_mem_take member)
    simp [inWindow, own]
  have rest : (after.take (count - before.length - inside.length)).filter
      (inWindow startLine endLine) = [] := by
    rw [List.filter_eq_nil_iff]
    intro event member
    have own := late event (List.mem_of_mem_take member)
    simp only [inWindow, Bool.and_eq_true, decide_eq_true_eq]
    omega
  rw [List.append_assoc, List.take_append, List.take_append, List.filter_append,
    List.filter_append, none_, all, rest, List.nil_append, List.append_nil]

def window (content : List Char) (startLine endLine : Nat) : List Char :=
  (slice (fileLines content) (startLine - 1) endLine).flatten

def windowPairs (content : List Char) (startLine endLine : Nat) : List (List Char × List Char) :=
  slice (linePairs content) (startLine - 1) endLine

/-- Up to the end of the window no other separator than the ends of the file's lines stands in
the text; its masked copy goes so far and is masked in the window as the window is by itself; a
value that is replaced ends before the terminator of its line, or starts behind it on a line that
is neither the last of the window nor the last before it; and not more events are found up to
there than are kept. -/
structure WindowFit (content : List Char) (startLine endLine : Nat) : Prop where
  plain : ∀ c ∈ ((fileLines content).take endLine).flatten, separator c = true → c = '\n' ∨ c = '\r'
  reached : endLine ≤ (linePairs content).length
  masked : maskCode (window content startLine endLine) =
    (slice (splitlines (maskCode content)) (startLine - 1) endLine).flatten
  within : ∀ index line, index < endLine → (splitlines content)[index]? = some line →
    terminator line ≠ [] → ∀ span ∈ replacedAt isWord content index,
      span.2 ≤ (lineText line).length ∨
        (line.length ≤ span.1 ∧ index + 1 ≠ startLine - 1 ∧ index + 1 ≠ endLine)
  few : lineEvents isWord 1 (windowPairs content 1 (startLine - 1)) = [] ∨
    lineEvents isWord startLine (windowPairs content startLine endLine) = [] ∨
    (lineEvents isWord 1 (windowPairs content 1 endLine)).length ≤ maxEvents

theorem plain_breaks (c : Char) (plain : separator c = true → c = '\n' ∨ c = '\r')
    (next : Option Char) : breaksAfter c next = fileBreak c next := by
  by_cases ends_ : separator c = true
  · rcases plain ends_ with rfl | rfl
    · simp [breaksAfter, fileBreak, ends_]
    · simp [breaksAfter, fileBreak, ends_]
  · have other : c ≠ '\n' ∧ c ≠ '\r' := by
      constructor <;> rintro rfl <;> exact ends_ rfl
    simp [breaksAfter, fileBreak, ends_, other]

theorem file_finer (c : Char) (next : Option Char) (broken : fileBreak c next = true) :
    breaksAfter c next = true := by
  simp only [fileBreak, Bool.or_eq_true, Bool.and_eq_true, decide_eq_true_eq] at broken
  rcases broken with rfl | ⟨rfl, apart⟩
  · rfl
  · simpa [breaksAfter, separator] using apart

variable (content : List Char)

theorem lines_agree (count : Nat)
    (plain : ∀ c ∈ ((fileLines content).take count).flatten, separator c = true →
      c = '\n' ∨ c = '\r') : (splitlines content).take count = (fileLines content).take count := by
  apply pieces_agree fileBreak breaksAfter content count file_finer
  intro c member next broken
  rwa [← plain_breaks c (plain c member) next]

variable (startLine endLine : Nat)

theorem window_pairs (fit : WindowFit isWord content startLine endLine) :
    linePairs (window content startLine endLine) = windowPairs content startLine endLine := by
  have lines : splitlines (window content startLine endLine) =
      slice (splitlines content) (startLine - 1) endLine := by
    have same := lines_agree content endLine fit.plain
    rw [window, slice, ← same]
    exact pieces_slice breaksAfter content (startLine - 1) endLine
  have masked : splitlines (maskCode (window content startLine endLine)) =
      slice (splitlines (maskCode content)) (startLine - 1) endLine := by
    rw [fit.masked]
    exact pieces_slice breaksAfter (maskCode content) (startLine - 1) endLine
  rw [linePairs, lines, masked, windowPairs, linePairs, slice, slice, slice]
  simp only [List.zip_eq_zipWith, List.take_zipWith, List.drop_zipWith]

theorem before_window (ordered : startLine ≤ endLine) : (linePairs content).take endLine =
      (linePairs content).take (startLine - 1) ++ windowPairs content startLine endLine := by
  have halves := List.take_append_drop (startLine - 1) ((linePairs content).take endLine)
  rw [List.take_take, Nat.min_eq_left (by omega)] at halves
  exact halves.symm

theorem window_text (out : List Char)
    (events : List RedactionEvent) (fit : WindowFit isWord content startLine endLine)
    (run : redactSourceContent isWord (window content startLine endLine) startLine =
      .ok (out, events)) :
    out = ((windowPairs content startLine endLine).map (redactedLine isWord)).flatten := by
  rw [redacted_text isWord _ _ out events run, window_pairs isWord content _ _ fit]

theorem taken_lines (fit : WindowFit isWord content startLine endLine) :
    ((linePairs content).take endLine).map Prod.fst = (splitlines content).take endLine := by
  have long := fit.reached
  rw [linePairs, List.length_zip] at long
  rw [linePairs, List.zip_eq_zipWith, List.take_zipWith, ← List.zip_eq_zipWith, List.map_fst_zip]
  rw [List.length_take, List.length_take]
  omega

def frontText (content : List Char) (endLine : Nat) : List Char :=
  (((linePairs content).take endLine).map (redactedLine isWord)).flatten

theorem front_plain (fit : WindowFit isWord content startLine endLine) :
    ∀ c ∈ frontText isWord content endLine, separator c = true → c = '\n' ∨ c = '\r' := by
  intro c member ends_
  obtain ⟨line, listed, inside⟩ := List.mem_flatten.mp member
  obtain ⟨pair, taken, rfl⟩ := List.mem_map.mp listed
  rcases redact_chars pair.1 0 _ c inside with own | token
  · apply fit.plain c _ ends_
    rw [← lines_agree content endLine fit.plain, ← taken_lines isWord content startLine endLine fit]
    exact List.mem_flatten.mpr ⟨pair.1, List.mem_map_of_mem taken, own⟩
  · rw [token_plain c token] at ends_
    cases ends_

theorem window_edited (fit : WindowFit isWord content startLine endLine) :
    ∃ edit : List Char × List Char → Edit,
      (∀ pair ∈ (linePairs content).take endLine, EditOf isWord pair (edit pair)) ∧
      splitlines (frontText isWord content endLine) =
        newLines [] (((linePairs content).take endLine).map edit) := by
  apply pairs_edited isWord ((splitlines content).take endLine).flatten
  · rw [taken_lines isWord content startLine endLine fit]
    exact (pieces_taken breaksAfter content endLine).symm
  · intro pair member ended span inside
    obtain ⟨index, early, rfl⟩ := List.mem_take_iff_getElem.mp member
    have found := List.getElem?_eq_getElem (l := linePairs content) (by omega : index < _)
    rw [← replaced_at isWord content index _ found] at inside
    exact (fit.within index _ (by omega) (pair_line content index _ found) ended span
      inside).imp id And.left

theorem redacted_head (pair : List Char × List Char) (filled : pair.1 ≠ []) :
    (redactedLine isWord pair).head? = pair.1.head? ∨
      (redactedLine isWord pair).head? = some '[' := by
  unfold redactedLine redactSpans
  generalize (List.map Prod.fst _).insertionSort spanOrder = spans
  cases spans with
  | nil => exact Or.inl rfl
  | cons span spans =>
    obtain ⟨start, stop⟩ := span
    rw [redactFrom, if_neg (Nat.not_lt_zero _), List.drop_zero]
    cases start with
    | zero => exact Or.inr rfl
    | succ start =>
      obtain ⟨c, rest, shape⟩ := List.exists_cons_of_ne_nil filled
      rw [shape]
      exact Or.inl rfl

theorem tails_none (fit : WindowFit isWord content startLine endLine) (edit :
    List Char × List Char → Edit)
    (own : ∀ pair ∈ (linePairs content).take endLine, EditOf isWord pair (edit pair))
    (count : Nat) (inside : count ≤ endLine) (edge : count = startLine - 1 ∨ count = endLine) :
    ((((linePairs content).take count).map edit).map Edit.tail).getLast?.getD [] = [] := by
  rcases List.eq_nil_or_concat ((linePairs content).take count) with none_ | ⟨lead, pair, shape⟩
  · rw [none_]
    rfl
  · rw [List.concat_eq_append] at shape
    rw [shape, List.map_append, List.map_append, List.map_singleton, List.map_singleton,
      List.getLast?_concat, Option.getD_some]
    have size := congrArg List.length shape
    have long := fit.reached
    rw [List.length_take, List.length_append, List.length_singleton] at size
    have taken : ((linePairs content).take count)[lead.length]? = some pair := by
      rw [shape, List.getElem?_append_right (le_refl _), Nat.sub_self]
      rfl
    have found : (linePairs content)[lead.length]? = some pair := by
      rwa [List.getElem?_take_of_lt (by omega)] at taken
    have mine := own pair (List.mem_of_getElem? (i := lead.length) (by
      rwa [List.getElem?_take_of_lt (by omega)]))
    by_cases ended : terminator pair.1 = []
    · exact mine.parted.tail_nil ended
    · rw [mine.parted.tail_iff ended]
      intro span member
      have replaced : span ∈ replacedAt isWord content lead.length := by
        rw [replaced_at isWord content lead.length pair found]
        exact member
      rcases fit.within lead.length pair.1 (by omega)
        (pair_line content lead.length pair found) ended span replaced with near | ⟨-, before, last⟩
      · exact near
      · omega

theorem pair_next (lead rest : List (List Char × List Char)) (last next : List Char × List Char)
    (shape : linePairs content = lead ++ last :: next :: rest) :
    terminator last.1 ≠ [] ∧ next.1 ≠ [] ∧ endsBefore breaksAfter last.1 next.1.head? = true := by
  have firsts : (splitlines content).take (splitlines (maskCode content)).length =
      lead.map Prod.fst ++ last.1 :: next.1 :: rest.map Prod.fst := by
    rw [← zip_firsts, show (splitlines content).zip (splitlines (maskCode content)) =
      linePairs content from rfl, shape, List.map_append, List.map_cons, List.map_cons]
  have lines : splitlines content = lead.map Prod.fst ++ last.1 :: next.1 :: (rest.map Prod.fst ++
      (splitlines content).drop (splitlines (maskCode content)).length) := by
    conv_lhs => rw [← List.take_append_drop (splitlines (maskCode content)).length
      (splitlines content), firsts]
    simp only [List.append_assoc, List.cons_append]
  refine ⟨inner_terminated content last.1 next.1 _ _ lines, ?_,
    pieces_ended breaksAfter content last.1 _ _ next.1 lines⟩
  apply pieces_filled breaksAfter content next.1
  rw [show pieces breaksAfter content = _ from lines]
  simp

theorem front_ended (fit : WindowFit isWord content startLine endLine) (edit :
    List Char × List Char → Edit)
    (own : ∀ pair ∈ (linePairs content).take endLine, EditOf isWord pair (edit pair))
    (some_ : frontText isWord content endLine ≠ [])
    (more : (((linePairs content).drop endLine).map (redactedLine isWord)).flatten ≠ []) :
    endsBefore fileBreak (frontText isWord content endLine)
      (((linePairs content).drop endLine).map (redactedLine isWord)).flatten.head? = true := by
  have tails := tails_none isWord content startLine endLine fit edit own endLine (le_refl _)
    (Or.inr rfl)
  obtain ⟨next, rest, behind⟩ := List.exists_cons_of_ne_nil
    (fun none_ => more (by rw [none_]; rfl) : (linePairs content).drop endLine ≠ [])
  obtain ⟨lead, last, front⟩ := (List.eq_nil_or_concat _).resolve_left
    (fun none_ => some_ (by rw [frontText, none_]; rfl) : (linePairs content).take endLine ≠ [])
  rw [List.concat_eq_append] at front
  have halves := List.take_append_drop endLine (linePairs content)
  rw [front, behind, List.append_assoc] at halves
  obtain ⟨terminated, filled, ended⟩ := pair_next content lead rest last next halves.symm
  have tail : (edit last).tail = [] := by
    rw [front, List.map_append, List.map_append, List.map_singleton, List.map_singleton,
      List.getLast?_concat, Option.getD_some] at tails
    exact tails
  have mine := own last (front ▸ List.mem_append_right _ (.head _))
  have end_ : (frontText isWord content endLine).getLast? = last.1.getLast? := by
    rw [frontText, front, List.map_append, List.flatten_append, List.map_singleton,
      List.flatten_singleton, edit_text isWord last _ mine, Edit.text, tail, List.append_nil,
      ← List.append_assoc, mine.line, List.getLast?_append_of_ne_nil _ terminated]
    conv_rhs => rw [← line_whole last.1, List.getLast?_append_of_ne_nil _ terminated]
  have start : (((linePairs content).drop endLine).map (redactedLine isWord)).flatten.head? =
      (redactedLine isWord next).head? := by
    rw [behind, List.map_cons, List.flatten_cons, List.head?_append]
    rcases redacted_head isWord next filled with same | token
    · rw [same]
      obtain ⟨c, others, shape⟩ := List.exists_cons_of_ne_nil filled
      rw [shape]
      rfl
    · rw [token]
      rfl
  rw [start]
  unfold endsBefore at ended ⊢
  rw [end_]
  cases char : last.1.getLast? with
  | none => simp [char] at ended
  | some c =>
    simp only [char] at ended ⊢
    have plain := front_plain isWord content startLine endLine fit c
      (List.mem_of_getLast? (end_.trans char))
    rw [← plain_breaks c plain]
    rcases redacted_head isWord next filled with same | token
    · rw [same]
      exact ended
    · rw [token]
      simp only [breaksAfter, Bool.and_eq_true] at ended ⊢
      exact ⟨ended.1, by simp⟩

theorem sliced_text (ordered : startLine ≤ endLine)
    (fit : WindowFit isWord content startLine endLine) :
    window ((linePairs content).map (redactedLine isWord)).flatten startLine endLine =
      ((windowPairs content startLine endLine).map (redactedLine isWord)).flatten := by
  obtain ⟨edit, own, edited⟩ := window_edited isWord content startLine endLine fit
  have size : ((linePairs content).take endLine).length = endLine := by
    rw [List.length_take, Nat.min_eq_left fit.reached]
  have parts : ((linePairs content).map (redactedLine isWord)).flatten =
      frontText isWord content endLine ++
        (((linePairs content).drop endLine).map (redactedLine isWord)).flatten := by
    rw [frontText, ← List.flatten_append, ← List.map_append, List.take_append_drop]
  have files : fileLines (frontText isWord content endLine) =
      newLines [] (((linePairs content).take endLine).map edit) := by
    rw [← edited]
    apply pieces_same breaksAfter fileBreak
    intro c member next
    exact (plain_breaks c (front_plain isWord content startLine endLine fit c member) next).symm
  have count : (newLines [] (((linePairs content).take endLine).map edit)).length = endLine := by
    rw [new_lines_length [] _ (tails_none isWord content startLine endLine fit edit own endLine
      (le_refl _) (Or.inr rfl)), List.length_map, size]
  have whole : (fileLines ((linePairs content).map (redactedLine isWord)).flatten).take endLine =
      newLines [] (((linePairs content).take endLine).map edit) := by
    rw [parts, fileLines, pieces_append fileBreak _ _
      (front_ended isWord content startLine endLine fit edit own), ← fileLines, files]
    exact List.take_left' count
  have early : ((linePairs content).take (startLine - 1)).length = startLine - 1 := by
    have long := fit.reached
    rw [List.length_take]
    omega
  have dropped := new_lines_dropped [] (((linePairs content).take (startLine - 1)).map edit)
    ((windowPairs content startLine endLine).map edit)
  rw [tails_none isWord content startLine endLine fit edit own (startLine - 1) (by omega)
    (Or.inl rfl), List.length_map, early, ← List.map_append,
    ← before_window content startLine endLine ordered] at dropped
  rw [window, slice, whole, dropped, new_lines_flatten, List.nil_append, List.map_map]
  congr 1
  apply List.map_congr_left
  intro pair member
  exact (edit_text isWord pair _ (own pair (by
    rw [before_window content startLine endLine ordered]
    exact List.mem_append_right _ member))).symm

end

variable (isWord : Char → Bool)

theorem sliced_events (content : List Char) (startLine endLine : Nat) (first : 1 ≤ startLine)
    (ordered : startLine ≤ endLine) (fit : WindowFit isWord content startLine endLine) :
    ((lineEvents isWord 1 (linePairs content)).take maxEvents).filter (inWindow startLine endLine) =
      (lineEvents isWord startLine (windowPairs content startLine endLine)).take maxEvents := by
  have long := fit.reached
  let before := (linePairs content).take (startLine - 1)
  let inside := windowPairs content startLine endLine
  let after := (linePairs content).drop endLine
  have early : before.length = startLine - 1 := by
    simp only [before, List.length_take]
    omega
  have middle : inside.length = endLine - (startLine - 1) := by
    simp only [inside, windowPairs, slice, List.length_drop, List.length_take]
    omega
  have taken := before_window content startLine endLine ordered
  have parts : lineEvents isWord 1 (linePairs content) = lineEvents isWord 1 before ++
      lineEvents isWord startLine inside ++ lineEvents isWord (endLine + 1) after := by
    conv_lhs => rw [← List.take_append_drop endLine (linePairs content), taken]
    rw [line_events_append, line_events_append, List.length_append, early, middle]
    congr 2
    · congr 1
      omega
    · omega
  rw [parts, window_events startLine endLine]
  · rcases fit.few with none_ | none_ | few
    · rw [show lineEvents isWord 1 before = [] from none_]
      rfl
    · rw [show lineEvents isWord startLine inside = [] from none_, List.take_nil, List.take_nil]
    · have total : (lineEvents isWord 1 before ++ lineEvents isWord startLine inside).length ≤
          maxEvents := by
        have both : lineEvents isWord 1 before ++ lineEvents isWord startLine inside =
            lineEvents isWord 1 ((linePairs content).take endLine) := by
          rw [taken, line_events_append, early]
          congr 2
          omega
        rw [both]
        exact few
      rw [List.length_append] at total
      rw [List.take_of_length_le (by omega), List.take_of_length_le (by
        dsimp only [inside] at total
        omega)]
  · intro event member
    have placed := line_events_placed isWord 1 before event member
    omega
  · intro event member
    have placed := line_events_placed isWord startLine inside event member
    omega
  · intro event member
    have placed := line_events_placed isWord (endLine + 1) after event member
    omega

/-- The excerpt holds the lines of the redacted file and its events on them. -/
structure Commutes (excerpt : AttestedExcerpt) (out : List Char) (events : List RedactionEvent) :
    Prop where
  lines : excerpt.content.toList = window out excerpt.startLine excerpt.endLine
  events : excerpt.redactionEvents =
    (events.filter (inWindow excerpt.startLine excerpt.endLine)).map fun event =>
      (event.line.toNat, event.patternId)

/-- Where the lines up to the end of an excerpt end as the file's do, and are masked and replaced
line by line in the file as they are in the excerpt, redaction commutes with excerpting. -/
theorem extract_commutes (readCheckoutFile : String → Checked (List UInt8))
    (repoRelativePath : String) (candidateLine contextLines : Int) (content out : List Char)
    (events : List RedactionEvent) (excerpt : AttestedExcerpt)
    (file : readCheckoutFile repoRelativePath = .ok (Text.utf8 content))
    (run : extractSourceExcerpt isWord readCheckoutFile repoRelativePath candidateLine
      contextLines = .ok excerpt) (whole : redactSourceContent isWord content 1 = .ok (out, events))
    (fit : WindowFit isWord content (excerptStart candidateLine contextLines)
      (excerptEnd (fileLines content).length candidateLine contextLines)) :
    Commutes excerpt out events := by
  obtain ⟨text, found, redaction, holds⟩ := extract_ok isWord readCheckoutFile repoRelativePath
    candidateLine contextLines content excerpt file run
  have lines := excerpt.linesValid
  rw [holds.start, holds.stop] at lines
  have pairs := window_pairs isWord content _ _ fit
  constructor
  · rw [holds.text, holds.start, holds.stop, String.toList_ofList,
      window_text isWord content _ _ text found fit redaction,
      redacted_text isWord content 1 out events whole, sliced_text isWord content _ _ lines.2.1 fit]
  · have own := redacted_events isWord _ _ text found redaction
    rw [show linePairs (slice (fileLines content) _ _).flatten = _ from pairs] at own
    rw [holds.events, holds.start, holds.stop, own,
      redacted_events isWord content 1 out events whole,
      sliced_events isWord content _ _ lines.1 lines.2.1 fit]

def sampleFile : List Char := "// first\nString token = \"abc\";\n".toList

theorem sample_fits : WindowFit asciiWord sampleFile (excerptStart 2 0)
    (excerptEnd (fileLines sampleFile).length 2 0) where
  plain := by
    have all : ((fileLines sampleFile).take 2).flatten.all
        (fun c => !separator c || c = '\n' || c = '\r') = true := by decide
    intro c member ends_
    have own := List.all_eq_true.mp all c member
    simpa [ends_] using own
  reached := by decide
  masked := by decide
  within := by
    have all : (List.range 2).all (fun index => (replacedAt asciiWord sampleFile index).all
      fun span => span.2 ≤ (lineText ((splitlines sampleFile)[index]?.getD [])).length) = true := by
      decide
    intro index line inside found _ span member
    have own := List.all_eq_true.mp (List.all_eq_true.mp all index
      (List.mem_range.mpr inside)) span member
    rw [found] at own
    exact Or.inl (of_decide_eq_true own)
  few := by
    right
    right
    decide

theorem sample_extracted : ∃ excerpt, extractSourceExcerpt asciiWord
    (fun _ => .ok (Text.utf8 sampleFile)) "A.java" 2 0 = .ok excerpt ∧
      excerpt.Holds 2 2 "String token = [REDACTED];\n" [(2, "credential_assignment")] :=
  extract_made asciiWord _ "A.java" 2 0 sampleFile "String token = [REDACTED];\n".toList
    [⟨2, "credential_assignment"⟩] (by decide) rfl (by decide) (by decide) (by decide)
    "String token = \"abc\";\n".toList 2 2 (by decide) (by decide) (by decide) (by decide)
    (by decide) (by decide) (by decide) (by decide) (by decide) (by decide) (by decide)

theorem extract_commutes_sample : ∃ excerpt, extractSourceExcerpt asciiWord
    (fun _ => .ok (Text.utf8 sampleFile)) "A.java" 2 0 = .ok excerpt ∧
      Commutes excerpt "// first\nString token = [REDACTED];\n".toList
        [⟨2, "credential_assignment"⟩] := by
  obtain ⟨excerpt, made, -⟩ := sample_extracted
  exact ⟨excerpt, made, extract_commutes asciiWord (fun _ => .ok (Text.utf8 sampleFile)) "A.java"
    2 0 sampleFile _ _ excerpt rfl made (by decide) sample_fits⟩

/-- A file whose text block ends on its second line, where a token is assigned. -/
def blockFile : List Char := "String s = \"\"\"\n\"\"\"; token = \"abc\";\n".toList

theorem block_extracted : ∃ excerpt, extractSourceExcerpt asciiWord
    (fun _ => .ok (Text.utf8 blockFile)) "A.java" 2 0 = .ok excerpt ∧
      excerpt.Holds 2 2 "\"\"\"; token = \"abc\";\n" [] :=
  extract_made asciiWord _ "A.java" 2 0 blockFile "\"\"\"; token = \"abc\";\n".toList
    [] (by decide) rfl (by decide) (by decide) (by decide)
    "\"\"\"; token = \"abc\";\n".toList 2 2 (by decide) (by decide) (by decide) (by decide)
    (by decide) (by decide) (by decide) (by decide) (by decide) (by decide) (by decide)

/-- The line by itself opens a text block, and its token stays. -/
theorem block_line_kept :
    ¬ ∀ (readCheckoutFile : String → Checked (List UInt8)) (repoRelativePath : String)
      (candidateLine contextLines : Int) (content out : List Char) (events : List RedactionEvent)
      (excerpt : AttestedExcerpt), readCheckoutFile repoRelativePath = .ok (Text.utf8 content) →
      extractSourceExcerpt asciiWord readCheckoutFile repoRelativePath candidateLine
        contextLines = .ok excerpt → redactSourceContent asciiWord content 1 = .ok (out, events) →
      Commutes excerpt out events := by
  intro all
  obtain ⟨excerpt, made, holds⟩ := block_extracted
  have commutes := all (fun _ => .ok (Text.utf8 blockFile)) "A.java" 2 0 blockFile
    "String s = \"\"\"\n\"\"\"; token = [REDACTED];\n".toList [⟨2, "credential_assignment"⟩]
    excerpt rfl made (by decide)
  have events := commutes.events
  rw [holds.events, holds.start, holds.stop] at events
  revert events
  decide

end DosWeb.Growth
