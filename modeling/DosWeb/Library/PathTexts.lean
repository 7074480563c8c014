import DosWeb.Library.Segments
import Mathlib.Data.List.DropRight

/-!
Paths as lists of segments: the texts that name a path, and patterns whose last segment may be
a wildcard.
-/

namespace DosWeb.Library.PathTexts

open Library.Segments

section

variable {β : Type}

/-- A path, the paths one segment below it, or the path and everything below it. -/
inductive PathPattern (β : Type) where
  | exact_ (path : List β)
  | children (path : List β)
  | subtree (path : List β)

def PathPattern.Matches : PathPattern β → List β → Prop
  | .exact_ path, segments => segments = path
  | .children path, segments => ∃ last, segments = path ++ [last]
  | .subtree path, segments => path <+: segments

variable [DecidableEq β] (one several : β)

/-- The pattern of a path whose last segment counts as a wildcard. -/
def patternOf (segments : List β) : PathPattern β :=
  if segments.getLast? = some several then .subtree segments.dropLast
  else if segments.getLast? = some one then .children segments.dropLast
  else .exact_ segments

theorem pattern_self (segments : List β) : (patternOf one several segments).Matches segments := by
  unfold patternOf
  split
  · exact List.dropLast_prefix segments
  · split
    · rename_i last
      exact ⟨one, (List.dropLast_append_getLast? one last).symm⟩
    · rfl

theorem pattern_subtree (path : List β) :
    patternOf one several (path ++ [several]) = .subtree path := by
  rw [patternOf, if_pos List.getLast?_concat, List.dropLast_concat]

theorem pattern_children (path : List β) (other : one ≠ several) :
    patternOf one several (path ++ [one]) = .children path := by
  rw [patternOf, if_neg, if_pos List.getLast?_concat, List.dropLast_concat]
  rw [List.getLast?_concat, Option.some_inj]
  exact other

end

variable {α : Type} [DecidableEq α] (sep : α)

def rendered (parts : List (List α)) : List α := parts.flatMap (sep :: ·)

/-- The text of a path; that of the root is a separator. -/
def pathText (parts : List (List α)) : List α :=
  if parts = [] then [sep] else rendered sep parts

def pathSegments (text : List α) : List (List α) := kept sep (· ≠ []) text

def Plain (parts : List (List α)) : Prop := ∀ part ∈ parts, part ≠ [] ∧ sep ∉ part

def doubled : List α → Bool
  | first :: second :: rest => (first = sep && second = sep) || doubled (second :: rest)
  | _ => false

/-- Two adjoining separators become one, from left to right. -/
def halved : List α → List α
  | first :: second :: rest =>
    if first = sep ∧ second = sep then sep :: halved rest
    else first :: halved (second :: rest)
  | text => text

variable (text : List α)

theorem halved_length_le : (halved sep text).length ≤ text.length := by
  fun_induction halved sep text with
  | case1 first second rest both ih =>
    simp only [List.length_cons]
    omega
  | case2 first second rest other ih =>
    simp only [List.length_cons] at ih ⊢
    omega
  | case3 text single => exact le_refl _

theorem halved_length_lt (twice : doubled sep text = true) :
    (halved sep text).length < text.length := by
  fun_induction halved sep text with
  | case1 first second rest both ih =>
    have shorter := halved_length_le sep rest
    simp only [List.length_cons]
    omega
  | case2 first second rest other ih =>
    have later : doubled sep (second :: rest) = true := by
      rw [doubled, Bool.or_eq_true, Bool.and_eq_true, decide_eq_true_eq, decide_eq_true_eq]
        at twice
      exact twice.resolve_left other
    have shorter := ih later
    simp only [List.length_cons] at shorter ⊢
    omega
  | case3 text single =>
    unfold doubled at twice
    split at twice
    · rename_i first second rest
      exact absurd rfl (single first second rest)
    · exact absurd twice (by decide)

/-- The text after halving until no two separators adjoin. -/
def collapsed (text : List α) : List α :=
  if _ : doubled sep text = true then collapsed (halved sep text) else text
  termination_by text.length
  decreasing_by exact halved_length_lt sep text ‹_›

theorem segments_nil : pathSegments sep [] = [] := rfl

theorem segments_append (left right : List α) : pathSegments sep (left ++ sep :: right) =
      pathSegments sep left ++ pathSegments sep right := by
  rw [pathSegments, kept, List.splitOn_append_cons_self, List.filter_append]
  rfl

theorem segments_cons : pathSegments sep (sep :: text) = pathSegments sep text := by
  have cut := segments_append sep [] text
  rw [segments_nil] at cut
  exact cut

theorem segments_whole (part : List α) (filled : part ≠ []) (plain : sep ∉ part) :
    pathSegments sep part = [part] := by
  rw [pathSegments, kept, List.splitOn_eq_singleton plain]
  exact List.filter_cons_of_pos (by simpa using filled)

theorem segments_plain : Plain sep (pathSegments sep text) := by
  intro part member
  have own := kept_part sep _ text part member
  exact ⟨by simpa using own.1, own.2.1⟩

omit [DecidableEq α] in
theorem rendered_append (left right : List (List α)) :
    rendered sep (left ++ right) = rendered sep left ++ rendered sep right := List.flatMap_append

omit [DecidableEq α] in
theorem rendered_concat (parts : List (List α)) (last : List α) :
    rendered sep (parts ++ [last]) = rendered sep parts ++ sep :: last := by
  rw [rendered_append]
  simp [rendered]

theorem segments_last (c : α) (other : c ≠ sep) :
    ∃ last, (pathSegments sep (text ++ [c])).getLast? = some last ∧ last.getLast? = some c := by
  induction size : text.length using Nat.strong_induction_on generalizing text with
  | _ count ih =>
    by_cases inside : sep ∈ text
    · obtain ⟨front, back, rfl, -⟩ := List.eq_append_cons_of_mem inside
      have shorter : back.length < count := by
        rw [← size, List.length_append, List.length_cons]
        omega
      obtain ⟨last, found, ends_⟩ := ih back.length shorter back rfl
      refine ⟨last, ?_, ends_⟩
      rw [List.append_assoc, List.cons_append, segments_append, List.getLast?_append, found]
      rfl
    · have plain : sep ∉ text ++ [c] := by
        rw [List.mem_append, List.mem_singleton]
        exact not_or.mpr ⟨inside, Ne.symm other⟩
      refine ⟨text ++ [c], ?_, List.getLast?_concat⟩
      rw [segments_whole sep _ (by simp) plain]
      rfl

theorem segments_rendered (parts : List (List α)) (plain : Plain sep parts) :
    pathSegments sep (rendered sep parts) = parts := by
  induction parts using List.reverseRecOn with
  | nil => rfl
  | append_singleton parts last ih =>
    have own := plain last (by simp)
    rw [rendered_concat, segments_append, segments_whole sep last own.1 own.2,
      ih fun part member => plain part (List.mem_append_left _ member)]

theorem segments_path_text (parts : List (List α)) (plain : Plain sep parts) :
    pathSegments sep (pathText sep parts) = parts := by
  unfold pathText
  split
  · rename_i root
    rw [root, segments_cons, segments_nil]
  · exact segments_rendered sep parts plain

theorem path_text_inj (left right : List (List α)) (plainLeft : Plain sep left)
    (plainRight : Plain sep right)
    (same : pathText sep left = pathText sep right) : left = right := by
  calc
    left = pathSegments sep (pathText sep left) := (segments_path_text sep left plainLeft).symm
    _ = pathSegments sep (pathText sep right) := by rw [same]
    _ = right := segments_path_text sep right plainRight

theorem segments_halved (lead text : List α) : pathSegments sep (lead ++ halved sep text) =
      pathSegments sep (lead ++ text) := by
  fun_induction halved sep text generalizing lead with
  | case1 first second rest both ih =>
    have whole := ih []
    rw [List.nil_append, List.nil_append] at whole
    rw [both.1, both.2, segments_append, segments_append, segments_cons, whole]
  | case2 first second rest other ih =>
    have moved := ih (lead ++ [first])
    rw [List.append_assoc, List.append_assoc] at moved
    exact moved
  | case3 text single => rfl

theorem segments_collapsed : pathSegments sep (collapsed sep text) = pathSegments sep text := by
  fun_induction collapsed sep text with
  | case1 text twice ih =>
    rw [ih]
    exact segments_halved sep [] text
  | case2 text once => rfl

theorem collapsed_once : doubled sep (collapsed sep text) = false := by
  fun_induction collapsed sep text with
  | case1 text twice ih => exact ih
  | case2 text once => exact Bool.eq_false_iff.mpr once

theorem halved_head : (halved sep text).head? = text.head? := by
  fun_cases halved sep text with
  | case1 first second rest both => rw [both.1]; rfl
  | case2 first second rest other => rfl
  | case3 text single => rfl

theorem collapsed_head : (collapsed sep text).head? = text.head? := by
  fun_induction collapsed sep text with
  | case1 text twice ih => rw [ih, halved_head]
  | case2 text once => rfl

def trimmed (text : List α) : List α := text.rdropWhile fun c => decide (c = sep)

theorem trimmed_plain (lead part : List α) (filled : part ≠ []) (plain : sep ∉ part) :
    trimmed sep (lead ++ part) = lead ++ part := by
  rw [trimmed, List.rdropWhile_eq_self_iff]
  intro some_
  have last : (lead ++ part).getLast some_ = part.getLast filled :=
    List.getLast_append_of_ne_nil some_ filled
  have other : part.getLast filled ≠ sep :=
    fun same => plain (same ▸ List.getLast_mem filled)
  rw [last, decide_eq_true_eq]
  exact other

theorem trimmed_concat : trimmed sep (text ++ [sep]) = trimmed sep text :=
  List.rdropWhile_concat_pos _ _ _ (by simp)

theorem trimmed_rendered (parts : List (List α)) (plain : Plain sep parts) :
    trimmed sep (rendered sep parts) = rendered sep parts := by
  cases parts using List.reverseRecOn with
  | nil => rfl
  | append_singleton parts last =>
    have own := plain last (by simp)
    have lead : rendered sep (parts ++ [last]) =
        (rendered sep parts ++ [sep]) ++ last := by
      rw [rendered_concat, List.append_assoc]
      rfl
    rw [lead]
    exact trimmed_plain sep _ last own.1 own.2

theorem once_tail (lead text : List α) (once : doubled sep (lead ++ text) = false) :
    doubled sep text = false := by
  induction lead with
  | nil => exact once
  | cons c lead ih =>
    apply ih
    cases rest : lead ++ text with
    | nil => rfl
    | cons second rest' =>
      rw [List.cons_append, rest, doubled, Bool.or_eq_false_iff] at once
      exact once.2

/-- A text without adjoining separators is that of its segments, up to a separator at the end. -/
theorem once_rendered (part rest : List α) (plain : sep ∉ part)
    (once : doubled sep (sep :: part ++ rest) = false) :
    let segments := pathSegments sep (sep :: part ++ rest)
    sep :: part ++ rest = rendered sep segments ∨
      sep :: part ++ rest = rendered sep segments ++ [sep] := by
  induction rest generalizing part with
  | nil =>
    rw [List.append_nil, segments_cons]
    by_cases filled : part = []
    · right
      rw [filled]
      rfl
    · left
      rw [segments_whole sep part filled plain]
      simp [rendered]
  | cons c rest ih =>
    by_cases same : c = sep
    · subst c
      have filled : part ≠ [] := by
        intro none_
        rw [none_] at once
        simp [doubled] at once
      have later : doubled sep (sep :: [] ++ rest) = false := once_tail sep (sep :: part) _ once
      have tail := ih [] List.not_mem_nil later
      have cut : pathSegments sep (sep :: part ++ sep :: rest) =
          [part] ++ pathSegments sep (sep :: [] ++ rest) := by
        rw [segments_append, segments_cons, segments_whole sep part filled plain]
        exact congrArg _ (segments_cons sep rest).symm
      dsimp only
      rw [cut, rendered_append]
      have first : rendered sep [part] = sep :: part := by simp [rendered]
      rw [first]
      rcases tail with whole | ended
      · left
        exact congrArg (sep :: part ++ ·) whole
      · right
        rw [List.append_assoc]
        exact congrArg (sep :: part ++ ·) ended
    · have longer : sep ∉ part ++ [c] := by
        rw [List.mem_append, List.mem_singleton]
        exact not_or.mpr ⟨plain, Ne.symm same⟩
      have moved : sep :: part ++ c :: rest = sep :: (part ++ [c]) ++ rest := by simp
      rw [moved] at once ⊢
      exact ih (part ++ [c]) longer once

theorem collapsed_path_text (leads : text.head? = some sep) :
    (if (collapsed sep text).length > 1 then trimmed sep (collapsed sep text)
      else collapsed sep text) = pathText sep (pathSegments sep text) := by
  have once := collapsed_once sep text
  have first := collapsed_head sep text
  rw [← segments_collapsed sep text]
  rw [leads] at first
  set short := collapsed sep text
  obtain ⟨rest, shape⟩ := List.head?_eq_some_iff.mp first
  rw [shape] at once ⊢
  have plain := trimmed_rendered sep _ (segments_plain sep (sep :: rest))
  rcases once_rendered sep [] rest List.not_mem_nil once with whole | ended
  · have some_ : pathSegments sep (sep :: rest) ≠ [] := by
      intro none_
      rw [List.cons_append, List.nil_append, none_] at whole
      cases whole
    rw [pathText, if_neg some_]
    rw [← show sep :: rest = rendered sep (pathSegments sep (sep :: rest))
      from whole] at plain ⊢
    split
    · exact plain
    · rfl
  · by_cases none_ : pathSegments sep (sep :: rest) = []
    · have root : sep :: rest = [sep] := by
        rw [List.cons_append, List.nil_append, none_] at ended
        exact ended
      rw [pathText, if_pos none_, root]
      rfl
    · have long : (sep :: rest).length > 1 := by
        obtain ⟨part, parts, segments⟩ := List.exists_cons_of_ne_nil none_
        have size := congrArg List.length ended
        rw [List.cons_append, List.nil_append, segments] at size
        simp only [rendered, List.flatMap_cons, List.length_append, List.length_cons,
          List.length_nil] at size ⊢
        omega
      rw [if_pos long, pathText, if_neg none_]
      calc
        trimmed sep (sep :: rest) = trimmed sep (rendered sep (pathSegments sep (sep :: rest)) ++
              [sep]) := congrArg (trimmed sep) ended
        _ = rendered sep (pathSegments sep (sep :: rest)) := by
            rw [trimmed_concat, plain]

def squeezed : List α → List α
  | first :: second :: rest =>
    if first = sep ∧ second = sep then squeezed (second :: rest)
    else first :: squeezed (second :: rest)
  | text => text

theorem squeezed_head (text : List α) : (squeezed sep text).head? = text.head? := by
  fun_induction squeezed sep text with
  | case1 first second rest both ih => rw [ih, both.1, both.2]; rfl
  | case2 first second rest other ih => rfl
  | case3 text single => rfl

theorem squeezed_once (text : List α) : doubled sep (squeezed sep text) = false := by
  fun_induction squeezed sep text with
  | case1 first second rest both ih => exact ih
  | case2 first second rest other ih =>
    have head := squeezed_head sep (second :: rest)
    cases shape : squeezed sep (second :: rest) with
    | nil => rfl
    | cons next later =>
      rw [shape, List.head?_cons, List.head?_cons, Option.some_inj] at head
      rw [shape] at ih
      rw [doubled, ih, Bool.or_false, head, Bool.and_eq_false_iff]
      by_cases same : first = sep
      · exact Or.inr (decide_eq_false fun again => other ⟨same, again⟩)
      · exact Or.inl (decide_eq_false same)
  | case3 text single =>
    unfold doubled
    split
    · rename_i first second rest
      exact absurd rfl (single first second rest)
    · rfl

theorem segments_squeezed (lead text : List α) : pathSegments sep (lead ++ squeezed sep text) =
      pathSegments sep (lead ++ text) := by
  fun_induction squeezed sep text generalizing lead with
  | case1 first second rest both ih =>
    rw [ih, both.1, both.2, segments_append, segments_append, segments_cons]
  | case2 first second rest other ih =>
    have moved := ih (lead ++ [first])
    rw [List.append_assoc, List.append_assoc] at moved
    exact moved
  | case3 text single => rfl

theorem squeezed_short (text : List α) : (squeezed sep text).length ≤ text.length := by
  fun_induction squeezed sep text with
  | case1 _ _ _ _ ih | case2 _ _ _ _ ih =>
    simp only [List.length_cons] at ih ⊢
    omega
  | case3 text single => exact le_refl _

/-- Squeezed, a text that starts with a separator is that of its segments, up to one at the end. -/
theorem squeezed_rendered (text : List α) (leads : text.head? = some sep) :
    squeezed sep text = rendered sep (pathSegments sep text) ∨ squeezed sep text =
        rendered sep (pathSegments sep text) ++ [sep] := by
  have once := squeezed_once sep text
  have first := squeezed_head sep text
  have cut := segments_squeezed sep [] text
  rw [List.nil_append, List.nil_append] at cut
  rw [← cut]
  rw [leads] at first
  obtain ⟨rest, shape⟩ := List.head?_eq_some_iff.mp first
  rw [shape] at once ⊢
  exact once_rendered sep [] rest List.not_mem_nil once

omit [DecidableEq α] in
theorem rdrop_head (drops : α → Bool) (text : List α) (c : α) (held : drops c = false)
    (first : text.head? = some c) : (text.rdropWhile drops).head? = some c := by
  obtain ⟨ending, whole⟩ := List.rdropWhile_prefix drops text
  cases short : text.rdropWhile drops with
  | nil =>
    have all := List.rdropWhile_eq_nil_iff.mp short c (List.mem_of_head? first)
    rw [held] at all
    cases all
  | cons d rest =>
    rw [short, List.cons_append] at whole
    rw [← whole, List.head?_cons] at first
    rw [List.head?_cons, first]

theorem trimmed_head (text : List α) (c : α) (other : c ≠ sep) (first : text.head? = some c) :
    (trimmed sep text).head? = some c := rdrop_head _ text c (decide_eq_false other) first

theorem ends_with_iff (segments : List (List α)) (plain : Plain sep segments) (last : List α)
    (filled : last ≠ []) (whole : sep ∉ last) :
    sep :: last <:+ pathText sep segments ↔ segments.getLast? = some last := by
  constructor
  · rintro ⟨front, same⟩
    have cut := congrArg (pathSegments sep) same
    rw [segments_append, segments_whole sep last filled whole,
      segments_path_text sep segments plain] at cut
    rw [← cut, List.getLast?_concat]
  · intro found
    have shape := (List.dropLast_append_getLast? last found).symm
    have some_ : segments ≠ [] := by
      intro none_
      rw [none_] at found
      cases found
    rw [pathText, if_neg some_, shape, rendered_concat]
    exact List.suffix_append _ _

section

variable (parts segments : List (List α)) (plainParts : Plain sep parts)
  (plainSegments : Plain sep segments)

omit [DecidableEq α] in
theorem path_text_plain_rendered (some_ : segments ≠ []) :
    pathText sep segments = rendered sep segments := by
  rw [pathText, if_neg some_]

include plainParts plainSegments

theorem path_text_below (tail : List α)
    (whole : pathText sep segments = rendered sep parts ++ sep :: tail) :
    segments = parts ++ pathSegments sep tail := by
  calc
    segments = pathSegments sep (pathText sep segments) :=
      (segments_path_text sep segments plainSegments).symm
    _ = parts ++ pathSegments sep tail := by
      rw [whole, segments_append, segments_rendered sep parts plainParts]

theorem subtree_iff : (pathText sep segments = rendered sep parts ∨
    rendered sep parts ++ [sep] <+: pathText sep segments) ↔ parts <+: segments := by
  constructor
  · rintro (same | ⟨tail, whole⟩)
    · have segmentsSame : segments = parts := by
        rw [← segments_path_text sep segments plainSegments, same,
          segments_rendered sep parts plainParts]
      exact segmentsSame ▸ List.prefix_refl _
    · rw [List.append_assoc] at whole
      rw [path_text_below sep parts segments plainParts plainSegments tail whole.symm]
      exact List.prefix_append _ _
  · rintro ⟨below, rfl⟩
    cases below with
    | nil =>
      rw [List.append_nil]
      by_cases root : parts = []
      · right
        rw [root]
        exact List.prefix_refl _
      · left
        exact path_text_plain_rendered sep parts root
    | cons first below =>
      right
      rw [path_text_plain_rendered sep _ (by simp), rendered_append]
      refine ⟨first ++ rendered sep below, ?_⟩
      simp [rendered]

theorem children_iff : (∃ tail, pathText sep segments = rendered sep parts ++ sep :: tail ∧
      sep ∉ tail) ↔ (∃ last, segments = parts ++ [last]) ∨ (parts = [] ∧ segments = []) := by
  constructor
  · rintro ⟨tail, whole, plain⟩
    have below := path_text_below sep parts segments plainParts plainSegments tail whole
    by_cases empty : tail = []
    · right
      rw [empty, segments_nil, List.append_nil] at below
      subst below
      by_cases root : segments = []
      · exact ⟨root, root⟩
      · rw [path_text_plain_rendered sep segments root] at whole
        have size := congrArg List.length whole
        rw [List.length_append, List.length_cons] at size
        omega
    · left
      rw [segments_whole sep tail empty plain] at below
      exact ⟨tail, below⟩
  · rintro (⟨last, rfl⟩ | ⟨rfl, rfl⟩)
    · refine ⟨last, ?_, (plainSegments last (by simp)).2⟩
      rw [path_text_plain_rendered sep _ (by simp), rendered_concat]
    · exact ⟨[], rfl, List.not_mem_nil⟩

end

end DosWeb.Library.PathTexts
