import DosWeb.Growth.RedactedLines

/-!
When redaction leaves a text without credentials as it is.
-/

namespace DosWeb.Growth

open Library Library.Patterns Library.Pieces Library.SplitLines

section

variable (isWord : Char → Bool)

/-- An assignment operator or a label colon follows, white space apart. -/
def assigns (rest : List Char) : Bool :=
  match rest.dropWhile Text.isSpace with
  | c :: next => operator c && next.head? ≠ some c
  | [] => false

/-- Two equals signs or two colons follow, white space apart. -/
def compares (rest : List Char) : Bool :=
  match rest.dropWhile Text.isSpace with
  | c :: next => operator c && next.head? = some c
  | [] => false

theorem operator_space (c : Char) (sign : operator c = true) : Text.isSpace c = false := by
  unfold operator at sign
  simp only [Bool.or_eq_true, decide_eq_true_eq] at sign
  rcases sign with rfl | rfl <;> rfl

theorem behind_label (found : Place) :
    ends isWord (.seq spaces (.seq (.one operator) spaces)) found = [] ↔
      assigns found.rest = false ∧ compares found.rest = false := by
  have signs : (assigns found.rest = false ∧ compares found.rest = false) ↔
      ∀ c next, found.rest.dropWhile Text.isSpace = c :: next → operator c = false := by
    unfold assigns compares
    cases found.rest.dropWhile Text.isSpace with
    | nil => simp
    | cons c next => by_cases same : next.head? = some c <;> simp [same]
  rw [signs, List.eq_nil_iff_forall_not_mem]
  constructor
  · intro none_ c next shape
    by_contra sign
    rw [Bool.not_eq_false] at sign
    obtain ⟨gap, inside, rest⟩ := many_one_reaches isWord Text.isSpace found
    obtain ⟨last, final⟩ := List.exists_mem_of_ne_nil _
      (many_filled (ends isWord (.one Text.isSpace)) next.length ⟨some c, next⟩)
    refine none_ last ((mem_seq isWord _ _ _ _).mpr ⟨gap, inside, (mem_seq isWord _ _ _ _).mpr
      ⟨⟨some c, next⟩, (mem_one isWord operator gap _).mpr ⟨c, ?_, sign, rfl⟩, final⟩⟩)
    rw [rest, shape]
  · intro open_ last member
    obtain ⟨gap, inside, behind⟩ := (mem_seq isWord _ _ _ _).mp member
    obtain ⟨sign, operated, -⟩ := (mem_seq isWord _ _ _ _).mp behind
    obtain ⟨c, shape, accepted, -⟩ := (mem_one isWord operator gap sign).mp operated
    obtain ⟨consumed, whole, all, -⟩ := many_one_consumed isWord Text.isSpace _ found gap inside
    have dropped : found.rest.dropWhile Text.isSpace = c :: sign.rest := by
      rw [whole, shape, List.dropWhile_append_of_pos all,
        List.dropWhile_cons_of_neg (by simp [operator_space c accepted])]
    rw [open_ c sign.rest dropped] at accepted
    cases accepted

theorem assignment_absent_iff (masked : List Char) :
    findAll isWord assignment masked = [] ↔ ∀ place ∈ places none masked,
      ∀ found ∈ ends isWord labelled place,
        assigns found.rest = false ∧ compares found.rest = false := by
  have nowhere : ∀ place, matchAt isWord assignment place = none ↔
      ∀ found ∈ ends isWord labelled place,
        assigns found.rest = false ∧ compares found.rest = false := by
    intro place
    rw [matchAt, List.head?_eq_none_iff]
    exact List.flatMap_eq_nil_iff.trans
      (forall₂_congr fun found _ => behind_label isWord found)
  rw [findAll, find_none_iff]
  constructor
  · intro absent place member found inside
    have reached := (mem_places none masked place).mp member
    by_cases filled : place.rest = []
    · obtain ⟨consumed, whole, -⟩ := ends_reach isWord labelled place found inside
      rw [filled] at whole
      rw [(List.append_eq_nil_iff.mp whole.symm).2]
      exact ⟨rfl, rfl⟩
    · exact (nowhere place).mp (absent place reached filled) found inside
  · intro open_ place reached _
    exact (nowhere place).mpr (open_ place ((mem_places none masked place).mpr reached))

end

variable (isWord : Char → Bool)

/-- Behind a credential label in code there is no assignment operator and no label colon, and
there is no credential mutator and no header call. -/
structure NoCredential (content : List Char) : Prop where
  labels : ∀ masked ∈ splitlines (maskCode content), ∀ place ∈ places none masked,
    ∀ found ∈ ends isWord labelled place, assigns found.rest = false
  mutators : ∀ masked ∈ splitlines (maskCode content), findAll isWord mutator masked = []
  headers : ∀ pair ∈ linePairs content, ∀ found ∈ findAll isWord headerCall pair.2,
    redactHeaderArgument isWord pair.1 (offset pair.2 found) = none

/-- The masked copy has as many lines, and no label in code stands before `==` or `::`. -/
structure NoComparison (content : List Char) : Prop where
  aligned : (splitlines (maskCode content)).length = (splitlines content).length
  labels : ∀ masked ∈ splitlines (maskCode content), ∀ place ∈ places none masked,
    ∀ found ∈ ends isWord labelled place, compares found.rest = false

variable (content : List Char)

theorem pair_masked : (linePairs content).map Prod.snd = splitlines (maskCode content) :=
  List.map_snd_zip (masked_fewer content)

theorem spans_absent_iff (calm : NoCredential isWord content)
    (pair : List Char × List Char) (member : pair ∈ linePairs content) :
    lineSpans isWord pair.1 pair.2 = [] ↔ ∀ place ∈ places none pair.2,
      ∀ found ∈ ends isWord labelled place, compares found.rest = false := by
  have masked := (List.of_mem_zip member).2
  have headers : (findAll isWord headerCall pair.2).filterMap (fun found =>
      (redactHeaderArgument isWord pair.1 (offset pair.2 found)).map fun span =>
        (span, "credential_header")) = [] := by
    rw [List.filterMap_eq_nil_iff]
    intro found inside
    rw [calm.headers pair member found inside]
    rfl
  rw [lineSpans, headers, calm.mutators pair.2 masked, List.append_eq_nil_iff, List.map_eq_nil_iff,
    assignment_absent_iff]
  constructor
  · intro none_ place inside found listed
    exact (none_.1 place inside found listed).2
  · intro none_
    refine ⟨fun place inside found listed => ?_, rfl⟩
    exact ⟨calm.labels pair.2 masked place inside found listed, none_ place inside found listed⟩

theorem no_events_iff (baseLine : Int) : (((linePairs content).zipIdx.flatMap fun item =>
        (lineSpans isWord item.1.1 item.1.2).map fun found =>
          (⟨baseLine + item.2, found.2⟩ : RedactionEvent)).take maxEvents) = [] ↔
      ∀ pair ∈ linePairs content, lineSpans isWord pair.1 pair.2 = [] := by
  rw [List.take_eq_nil_iff, or_iff_right (by decide), List.flatMap_eq_nil_iff]
  constructor
  · intro none_ pair member
    obtain ⟨index, found⟩ := List.mem_iff_getElem?.mp member
    have own := none_ (pair, index) (List.mk_mem_zipIdx_iff_getElem?.mpr found)
    exact List.map_eq_nil_iff.mp own
  · intro none_ item member
    have at_ := List.mk_mem_zipIdx_iff_getElem?.mp (show (item.1, item.2) ∈ _ from member)
    rw [none_ item.1 (List.mem_of_getElem? at_)]
    rfl

theorem untouched_text (none_ : ∀ pair ∈ linePairs content, lineSpans isWord pair.1 pair.2 = []) :
    ((linePairs content).map (redactedLine isWord)).flatten = content ↔
      (splitlines (maskCode content)).length = (splitlines content).length := by
  have fewer := masked_fewer content
  have same : (linePairs content).map (redactedLine isWord) =
      (splitlines content).take (splitlines (maskCode content)).length := by
    rw [← zip_firsts]
    apply List.map_congr_left
    intro pair member
    rw [redactedLine, none_ pair member]
    rfl
  have whole := pieces_flatten breaksAfter content
  rw [same]
  constructor
  · intro kept
    have rest :
        ((splitlines content).drop (splitlines (maskCode content)).length).flatten = [] := by
      apply List.self_eq_append_right.mp
      rw [← List.flatten_append, List.take_append_drop]
      exact kept.trans whole.symm
    cases lost : (splitlines content).drop (splitlines (maskCode content)).length with
    | nil =>
      have size := congrArg List.length lost
      rw [List.length_drop, List.length_nil] at size
      omega
    | cons line more =>
      rw [lost] at rest
      have filled := pieces_filled breaksAfter content line
        (List.mem_of_mem_drop (lost ▸ List.mem_cons_self))
      exact absurd (List.append_eq_nil_iff.mp rest).1 filled
  · intro aligned
    rw [aligned, List.take_length]
    exact whole

/-- A text without credentials is left as it is exactly where its masked copy has as many lines
and no label in code stands before `==` or `::`. -/
theorem redact_unchanged_iff (content : List Char) (baseLine : Int) (positive : 1 ≤ baseLine)
    (calm : NoCredential isWord content) :
    redactSourceContent isWord content baseLine = .ok (content, []) ↔
      NoComparison isWord content := by
  rw [redactSourceContent, if_neg (Int.not_lt.mpr positive), Except.ok.injEq, Prod.mk.injEq,
    no_events_iff]
  have labels : (∀ pair ∈ linePairs content, lineSpans isWord pair.1 pair.2 = []) ↔
      ∀ masked ∈ splitlines (maskCode content), ∀ place ∈ places none masked,
        ∀ found ∈ ends isWord labelled place, compares found.rest = false := by
    rw [← pair_masked, List.forall_mem_map]
    exact forall₂_congr fun pair member => spans_absent_iff isWord content calm pair member
  constructor
  · rintro ⟨kept, none_⟩
    exact ⟨(untouched_text isWord content none_).mp kept, labels.mp none_⟩
  · intro apart
    have none_ := labels.mpr apart.labels
    exact ⟨(untouched_text isWord content none_).mpr apart.aligned, none_⟩

theorem redact_unchanged_sample : redactSourceContent asciiWord "return token.trim();\n".toList 3 =
        .ok ("return token.trim();\n".toList, []) ↔
      NoComparison asciiWord "return token.trim();\n".toList :=
  redact_unchanged_iff asciiWord _ 3 (by decide) ⟨by decide, by decide, by decide⟩

/-- The right side of a comparison is taken for a value. -/
theorem comparison_redacted :
    ¬ ∀ (content : List Char) (baseLine : Int), 1 ≤ baseLine → NoCredential asciiWord content →
      redactSourceContent asciiWord content baseLine = .ok (content, []) := by
  intro all
  have kept := all "if (password == null)".toList 1 (by decide) ⟨by decide, by decide, by decide⟩
  revert kept
  decide

end DosWeb.Growth
