import DosWeb.Growth.Redaction

/-!
The masked copy of a text, character by character, and where a span that is found in it starts.
-/

namespace DosWeb.Growth

open Library Library.Patterns Library.Pieces Library.SplitLines

section

def Lexing.Known : Lexing → Prop
  | .quoted quote => quote = '"' ∨ quote = '\''
  | _ => True

def Veils (c d : Char) : Prop := d = c ∨ d = '#'

theorem veils_kept (c : Char) : Veils c c := Or.inl rfl

theorem veils_masked (c : Char) : Veils c '#' := Or.inr rfl

theorem veils_veiled (c : Char) : Veils c (veiled c) := by
  unfold veiled
  split
  · exact veils_kept c
  · exact veils_masked c

variable (state : Lexing)

theorem mask_chars (content : List Char) : List.Forall₂ Veils content (maskFrom state content) := by
  fun_induction maskFrom state content with
  | case1 _ ih | case9 _ ih | case16 _ _ _ ih =>
    exact .cons (veils_masked _) (.cons (veils_masked _) ih)
  | case2 _ ih | case4 _ _ ih | case5 _ ih | case17 _ _ _ _ ih => exact .cons (veils_masked _) ih
  | case3 _ ih | case12 _ ih =>
    exact .cons (veils_masked _) (.cons (veils_masked _) (.cons (veils_masked _) ih))
  | case6 c _ _ _ _ _ _ ih | case7 c _ _ ih => exact .cons (veils_kept c) ih
  | case8 c rest _ ih => exact .cons (veils_masked c) ih
  | case10 c => exact .cons (veils_kept c) .nil
  | case11 c _ _ _ ih | case13 c _ _ _ _ ih | case18 _ c _ _ _ _ ih =>
    exact .cons (veils_veiled c) ih
  | case14 rest => exact List.forall₂_same.mpr fun c _ => veils_kept c
  | case15 => exact .cons (veils_masked _) .nil
  | case19 => exact .nil

theorem mask_line_feed (rest : List Char) (known : state.Known) :
    (maskFrom state ('\n' :: rest)).head? = some '\n' := by
  cases state with
  | code => simp [maskFrom]
  | lineComment => rfl
  | blockComment =>
    cases rest with
    | nil => rfl
    | cons c rest => simp [maskFrom, veiled, lineEnd]
  | textBlock =>
    match rest with
    | [] => rfl
    | [_] => rfl
    | _ :: _ :: _ => simp [maskFrom, veiled, lineEnd]
  | quoted quote =>
    have other : '\n' ≠ quote := by
      rcases known with rfl | rfl <;> decide
    simp [maskFrom, other, veiled, lineEnd]

theorem kept_breaks (c : Char) (rest : List Char) (known : state.Known)
    (broken : breaksAfter c (maskFrom state rest).head? = true) :
    breaksAfter c rest.head? = true := by
  have ends_ : separator c = true := by
    simp only [breaksAfter, Bool.and_eq_true] at broken
    exact broken.1
  cases rest with
  | nil => simp [breaksAfter, ends_]
  | cons next rest =>
    by_cases feed : next = '\n'
    · rw [feed, mask_line_feed state rest known] at broken
      rw [feed]
      exact broken
    · simp [breaksAfter, ends_, feed]

theorem masked_breaks (c d : Char) (rest : List Char) (known : state.Known)
    (veils : Veils c d) (broken : breaksAfter d (maskFrom state rest).head? = true) :
    breaksAfter c rest.head? = true := by
  rcases veils with rfl | rfl
  · exact kept_breaks state d rest known broken
  · simp [breaksAfter, separator] at broken

theorem mask_coarser (content : List Char) (known : state.Known) :
    Coarser breaksAfter content (maskFrom state content) := by
  have silent : ∀ (c : Char) (fines coarses : List Char), Coarser breaksAfter fines coarses →
      Coarser breaksAfter (c :: fines) ('#' :: coarses) := by
    intro c fines coarses coarser
    exact .cons c '#' fines coarses (fun broken => by simp [breaksAfter, separator] at broken)
      coarser
  fun_induction maskFrom state content with
  | case1 _ ih | case9 _ ih => exact silent _ _ _ (silent _ _ _ (ih trivial))
  | case2 _ ih | case8 _ _ _ ih | case17 _ _ _ _ ih => exact silent _ _ _ (ih trivial)
  | case3 _ ih | case12 _ ih => exact silent _ _ _ (silent _ _ _ (silent _ _ _ (ih trivial)))
  | case4 rest _ ih => exact silent _ _ _ (ih (Or.inl rfl))
  | case5 rest ih => exact silent _ _ _ (ih (Or.inr rfl))
  | case6 c rest _ _ _ _ _ ih | case7 c rest _ ih =>
    exact .cons _ _ _ _ (masked_breaks .code c c rest trivial (veils_kept c)) (ih trivial)
  | case10 c => exact coarser_same breaksAfter [c]
  | case11 c rest _ _ ih =>
    exact .cons _ _ _ _ (masked_breaks _ _ _ rest trivial (veils_veiled c)) (ih trivial)
  | case13 c d e rest _ ih =>
    exact .cons _ _ _ _ (masked_breaks _ _ _ _ trivial (veils_veiled c)) (ih trivial)
  | case14 rest => exact coarser_same breaksAfter rest
  | case15 => exact silent _ _ _ .nil
  | case16 quote head rest ih => exact silent _ _ _ (silent _ _ _ (ih known))
  | case18 quote c rest _ _ _ ih =>
    exact .cons _ _ _ _ (masked_breaks _ _ _ rest known (veils_veiled c)) (ih known)
  | case19 => exact .nil

end

section

variable (isWord : Char → Bool)

theorem assignment_ends (start found : Place) (own : matchAt isWord assignment start = some found) :
    (∃ d, found.before = some d ∧ (operator d = true ∨ Text.isSpace d = true)) ∧
      ∀ c, found.rest.head? = some c → Text.isSpace c = false := by
  obtain ⟨label, -, behind⟩ := head_flat_map _ _ _ own
  obtain ⟨gap, -, signed⟩ := head_flat_map _ _ _ behind
  obtain ⟨sign, inside, spaced⟩ := head_flat_map _ _ _ signed
  obtain ⟨c, -, accepted, placed⟩ := (mem_one isWord operator gap sign).mp inside
  obtain ⟨consumed, -, all, before⟩ :=
    many_one_consumed isWord Text.isSpace _ sign found (List.mem_of_head? spaced)
  have first := many_one_first isWord Text.isSpace _ sign (le_refl _)
  rw [show (manyEnds (ends isWord (.one Text.isSpace)) sign.rest.length sign).head? = some found
    from spaced] at first
  constructor
  · cases last : consumed.getLast? with
    | none => exact ⟨c, by rw [before, last, placed]; rfl, Or.inl accepted⟩
    | some d =>
      exact ⟨d, by rw [before, last]; rfl, Or.inr (all d (List.mem_of_getLast? last))⟩
  · intro d head
    have rest : found.rest = sign.rest.dropWhile Text.isSpace := Option.some.inj first
    rw [rest] at head
    have stopped := List.head?_dropWhile_not Text.isSpace sign.rest
    rw [head] at stopped
    simpa using stopped

theorem mutator_ends (start found : Place) (own : matchAt isWord mutator start = some found) :
    found.before = some '(' := by
  have member := List.mem_of_head? own
  unfold mutator at member
  simp only [mem_seq] at member
  obtain ⟨-, -, -, -, -, -, -, -, -, -, gap, -, closed⟩ := member
  obtain ⟨c, -, accepted, placed⟩ := (mem_one isWord _ gap found).mp closed
  rw [placed, of_decide_eq_true accepted]

/-- How a span starts in a line: behind a comma of the line itself, or in the masked copy behind
a parenthesis or behind an operator and the white space after it. -/
inductive StartsAt (line masked : List Char) : Nat → Prop
  | comma (front back : List Char) (shape : line = front ++ ',' :: back) :
      StartsAt line masked (front.length + 1)
  | parenthesis (front back : List Char) (shape : masked = front ++ '(' :: back) :
      StartsAt line masked (front.length + 1)
  | assigned (front : List Char) (d : Char) (back : List Char) (shape : masked = front ++ d :: back)
      (kind : operator d = true ∨ Text.isSpace d = true)
      (next : ∀ c, back.head? = some c → Text.isSpace c = false) :
      StartsAt line masked (front.length + 1)

theorem drop_head (line : List Char) (count : Nat) (c : Char)
    (head : (line.drop count).head? = some c) :
    ∃ front back, line = front ++ c :: back ∧ front.length = count := by
  obtain ⟨back, shape⟩ := List.head?_eq_some_iff.mp head
  have inside : count < line.length := by
    by_contra past
    rw [List.drop_of_length_le (by omega)] at shape
    cases shape
  refine ⟨line.take count, back, ?_, ?_⟩
  · rw [← shape, List.take_append_drop]
  · rw [List.length_take]
    omega

theorem header_span (line masked : List Char) (openParenEnd : Nat) (span : Nat × Nat)
    (found : redactHeaderArgument isWord line openParenEnd = some span) :
    span.2 = valueEnd line span.1 ∧ StartsAt line masked span.1 := by
  obtain ⟨first, -, named⟩ := Option.bind_eq_some_iff.mp found
  rw [Option.ite_none_left_eq_some] at named
  have behind := named.2
  dsimp only at behind
  rw [Option.ite_none_right_eq_some] at behind
  obtain ⟨comma, made⟩ := behind
  obtain ⟨front, back, shape, size⟩ := drop_head line _ _ comma
  rw [← Option.some.inj made]
  exact ⟨rfl, size ▸ .comma front back shape⟩

theorem line_span_starts (line masked : List Char) (found : (Nat × Nat) × String)
    (member : found ∈ lineSpans isWord line masked) :
    found.1.2 = valueEnd line found.1.1 ∧ StartsAt line masked found.1.1 := by
  rcases List.mem_append.mp member with assigned | later
  · obtain ⟨place, inside, rfl⟩ := List.mem_map.mp assigned
    obtain ⟨start, own⟩ := found_matches isWord assignment masked place inside
    obtain ⟨⟨d, before, kind⟩, next⟩ := assignment_ends isWord start place own
    obtain ⟨front, shape, at_⟩ := found_after isWord assignment masked place d inside before
    exact ⟨rfl, at_ ▸ .assigned front d place.rest shape kind next⟩
  · rcases List.mem_append.mp later with mutated | header
    · obtain ⟨place, inside, rfl⟩ := List.mem_map.mp mutated
      obtain ⟨start, own⟩ := found_matches isWord mutator masked place inside
      obtain ⟨front, shape, at_⟩ :=
        found_after isWord mutator masked place '(' inside (mutator_ends isWord start place own)
      exact ⟨rfl, at_ ▸ .parenthesis front place.rest shape⟩
    · obtain ⟨place, inside, some_⟩ := List.mem_filterMap.mp header
      obtain ⟨span, redacted, rfl⟩ := Option.map_eq_some_iff.mp some_
      exact header_span isWord line masked _ span redacted

end

theorem veiled_at (text front : List Char) (d : Char) (back : List Char)
    (veils : List.Forall₂ Veils text (front ++ d :: back)) (shown : d ≠ '#') :
    ∃ lead rest, text = lead ++ d :: rest ∧ lead.length = front.length ∧
      List.Forall₂ Veils rest back := by
  have size := veils.length_eq
  have later := List.forall₂_drop_append text front (d :: back) veils
  obtain ⟨c, rest, kept, behind, whole⟩ := List.forall₂_cons_right_iff.mp later
  refine ⟨text.take front.length, rest, ?_, ?_, behind⟩
  · rcases kept with same | masked
    · rw [same, ← whole, List.take_append_drop]
    · exact absurd masked shown
  · rw [List.length_append, List.length_cons] at size
    rw [List.length_take]
    omega

/-- In a line whose masked copy is as long, a span starts in the text or behind all of it. -/
theorem start_placed (line masked : List Char) (start : Nat)
    (veils : List.Forall₂ Veils line masked) (solid : Solid breaksAfter line)
    (joined : Solid breaksAfter masked) (starts : StartsAt line masked start) :
    start ≤ (lineText line).length ∨ start = line.length := by
  cases starts with
  | comma front back shape =>
    rcases char_placed line front ',' back solid shape with inside | ⟨ends_, -⟩
    · exact Or.inl inside
    · cases ends_
  | parenthesis front back shape =>
    obtain ⟨lead, rest, whole, size, -⟩ := veiled_at line front '(' back (shape ▸ veils) (by decide)
    rcases char_placed line lead '(' rest solid whole with inside | ⟨ends_, -⟩
    · exact Or.inl (by omega)
    · cases ends_
  | assigned front d back shape kind next =>
    have shown : d ≠ '#' := by
      rintro rfl
      rcases kind with sign | gap
      · cases sign
      · cases gap
    obtain ⟨lead, rest, whole, size, behind⟩ := veiled_at line front d back (shape ▸ veils) shown
    rcases char_placed line lead d rest solid whole with inside | ⟨-, last | ⟨rfl, feed⟩⟩
    · exact Or.inl (by omega)
    · right
      rw [whole, last, List.length_append, List.length_singleton, size]
    · rw [feed] at behind
      obtain ⟨x, back, kept, -, rfl⟩ := List.forall₂_cons_left_iff.mp behind
      have open_ := solid_inside breaksAfter front '\r' (x :: back) (shape ▸ joined)
        (List.cons_ne_nil _ _)
      have same : x = '\n' := by
        simpa [breaksAfter, separator] using open_
      rw [same] at next
      cases next '\n' rfl

end DosWeb.Growth
