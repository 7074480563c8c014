import DosWeb.Benchmark.NormalRoutes
import DosWeb.Library.Patterns
import Mathlib.Data.List.Forall2
import Mathlib.Data.List.Infix

/-!
How the routes of a truth case and of an entry are compared: one of them may be a pattern with
variables in braces and with double stars, and a route without them may lie behind another.
-/

namespace DosWeb.Benchmark

open Library.PathTexts Library.Patterns

/-- A servlet mapping that ends in a star covers the segments behind it as two stars do. -/
def routePattern (value : List Char) : List Char :=
  if ['/', '*'].isSuffixOf value && !(['/', '*', '*'].isSuffixOf value) then
    value.dropLast ++ ['*', '*']
  else value

inductive RouteToken where
  | path
  | segment
  | character (c : Char)
  deriving DecidableEq

def routeTokens : List Char → List RouteToken
  | '*' :: '*' :: rest => .path :: routeTokens rest
  | '{' :: '}' :: rest => .segment :: routeTokens rest
  | c :: rest => .character c :: routeTokens rest
  | [] => []

def tokenPattern : RouteToken → Pattern
  | .path => .many (.one (· != '\n'))
  | .segment => .seq (.one (· != '/')) (.many (.one (· != '/')))
  | .character c => .one (· == c)

/-- The escaped pattern in which the stars and the braces stand for runs. -/
def routeRegex (tokens : List RouteToken) : Pattern :=
  tokens.foldr (fun token rest => .seq (tokenPattern token) rest) .empty

def hasWildcard (pattern : List Char) : Bool :=
  decide (['*', '*'] <:+: pattern) || decide (['{', '}'] <:+: pattern)

/-- A route of two or more segments that the other one ends with. -/
def suffixMatch (left right : List Char) : Bool :=
  let leftParts := pathSegments '/' left
  let rightParts := pathSegments '/' right
  let shorter := if leftParts.length ≤ rightParts.length then leftParts else rightParts
  let longer := if leftParts.length ≤ rightParts.length then rightParts else leftParts
  2 ≤ shorter.length && shorter.length < longer.length &&
    longer.drop (longer.length - shorter.length) == shorter

def routesMatch (a b : List Char) : Bool :=
  if a = b then true
  else
    let left := routePattern a
    let right := routePattern b
    let pattern := if hasWildcard left then left else right
    let value := if hasWildcard left then right else left
    if hasWildcard pattern then fullMatch (fun _ => false) (routeRegex (routeTokens pattern)) value
    else suffixMatch left right

def Instance : List RouteToken → List Char → Prop
  | [], text => text = []
  | .path :: tokens, text => ∃ run rest, text = run ++ rest ∧ Instance tokens rest
  | .segment :: tokens, text =>
    ∃ run rest, run ≠ [] ∧ '/' ∉ run ∧ text = run ++ rest ∧ Instance tokens rest
  | .character c :: tokens, text => ∃ rest, text = c :: rest ∧ Instance tokens rest

theorem instance_append (first second : List RouteToken) (text : List Char) :
    Instance (first ++ second) text ↔
      ∃ front back, text = front ++ back ∧ Instance first front ∧ Instance second back := by
  induction first generalizing text with
  | nil =>
    constructor
    · exact fun own => ⟨[], text, rfl, rfl, own⟩
    · rintro ⟨front, back, rfl, rfl, own⟩
      exact own
  | cons token first ih =>
    cases token with
    | path =>
      constructor
      · rintro ⟨run, rest, rfl, later⟩
        obtain ⟨front, back, rfl, one, two⟩ := (ih rest).mp later
        exact ⟨run ++ front, back, (List.append_assoc _ _ _).symm, ⟨run, front, rfl, one⟩, two⟩
      · rintro ⟨front, back, rfl, ⟨run, rest, rfl, one⟩, two⟩
        exact ⟨run, rest ++ back, List.append_assoc _ _ _, (ih _).mpr ⟨rest, back, rfl, one, two⟩⟩
    | segment =>
      constructor
      · rintro ⟨run, rest, filled, plain, rfl, later⟩
        obtain ⟨front, back, rfl, one, two⟩ := (ih rest).mp later
        exact ⟨run ++ front, back, (List.append_assoc _ _ _).symm,
          ⟨run, front, filled, plain, rfl, one⟩, two⟩
      · rintro ⟨front, back, rfl, ⟨run, rest, filled, plain, rfl, one⟩, two⟩
        exact ⟨run, rest ++ back, filled, plain, List.append_assoc _ _ _,
          (ih _).mpr ⟨rest, back, rfl, one, two⟩⟩
    | character c =>
      constructor
      · rintro ⟨rest, rfl, later⟩
        obtain ⟨front, back, rfl, one, two⟩ := (ih rest).mp later
        exact ⟨c :: front, back, rfl, ⟨front, rfl, one⟩, two⟩
      · rintro ⟨front, back, rfl, ⟨rest, rfl, one⟩, two⟩
        exact ⟨rest ++ back, rfl, (ih _).mpr ⟨rest, back, rfl, one, two⟩⟩

theorem instance_characters (word text : List Char) :
    Instance (word.map .character) text ↔ text = word := by
  induction word generalizing text with
  | nil => exact Iff.rfl
  | cons c word ih =>
    constructor
    · rintro ⟨rest, rfl, later⟩
      rw [(ih rest).mp later]
    · rintro rfl
      exact ⟨word, rfl, (ih word).mpr rfl⟩

theorem token_ends (token : RouteToken) (place later : Place)
    (member : later ∈ ends (fun _ => false) (tokenPattern token) place) :
    ∃ run, place.rest = run ++ later.rest ∧ Instance [token] run := by
  cases token with
  | path =>
    obtain ⟨run, whole, -, -⟩ := (mem_many_one _ _ place later).mp member
    exact ⟨run, whole, run, [], (List.append_nil run).symm, rfl⟩
  | segment =>
    obtain ⟨between, first, second⟩ := (mem_seq _ _ _ place later).mp member
    obtain ⟨c, shape, other, -⟩ := (mem_one _ _ place between).mp first
    obtain ⟨run, whole, all, -⟩ := (mem_many_one _ _ between later).mp second
    refine ⟨c :: run, by rw [shape, whole]; rfl, c :: run, [], List.cons_ne_nil _ _, ?_,
      (List.append_nil _).symm, rfl⟩
    intro slash
    rcases List.mem_cons.mp slash with same | inside
    · simp [← same] at other
    · simpa using all _ inside
  | character c =>
    obtain ⟨d, shape, same, -⟩ := (mem_one _ _ place later).mp member
    rw [beq_iff_eq] at same
    exact ⟨[d], shape, [], by rw [same], rfl⟩

theorem token_reaches (token : RouteToken) (place : Place) (run rest : List Char)
    (lines : '\n' ∉ place.rest) (whole : place.rest = run ++ rest) (own : Instance [token] run) :
    ⟨run.getLast?.or place.before, rest⟩ ∈ ends (fun _ => false) (tokenPattern token) place := by
  cases token with
  | path =>
    apply (mem_many_one _ _ place _).mpr
    refine ⟨run, whole, ?_, rfl⟩
    intro c member
    have other : c ≠ '\n' := by
      rintro rfl
      exact lines (whole ▸ List.mem_append_left _ member)
    simpa using other
  | segment =>
    obtain ⟨own, back, filled, plain, rfl, rfl⟩ := own
    obtain ⟨c, run, rfl⟩ := List.exists_cons_of_ne_nil filled
    rw [List.append_nil] at whole ⊢
    apply (mem_seq _ _ _ place _).mpr
    refine ⟨⟨some c, run ++ rest⟩, ?_, ?_⟩
    · apply (mem_one _ _ place _).mpr
      refine ⟨c, whole, ?_, rfl⟩
      have other : c ≠ '/' := fun same => plain (same ▸ (.head _))
      simpa using other
    · apply (mem_many_one _ _ _ _).mpr
      refine ⟨run, rfl, ?_, ?_⟩
      · intro d member
        have other : d ≠ '/' := fun same => plain (same ▸ .tail _ member)
        simpa using other
      · rw [List.getLast?_cons]
        cases run.getLast? <;> rfl
  | character c =>
    obtain ⟨back, rfl, rfl⟩ := own
    exact (mem_one _ _ place _).mpr ⟨c, whole, by simp, rfl⟩

theorem regex_ends_iff (tokens : List RouteToken) (place : Place) (lines : '\n' ∉ place.rest) :
    (∃ later ∈ ends (fun _ => false) (routeRegex tokens) place, later.rest = []) ↔
      Instance tokens place.rest := by
  induction tokens generalizing place with
  | nil =>
    constructor
    · rintro ⟨later, member, none_⟩
      rw [List.mem_singleton.mp member] at none_
      exact none_
    · exact fun none_ => ⟨place, List.mem_singleton_self _, none_⟩
  | cons token tokens ih =>
    rw [show token :: tokens = [token] ++ tokens from rfl, instance_append]
    constructor
    · rintro ⟨later, member, none_⟩
      obtain ⟨between, first, second⟩ := (mem_seq _ _ _ place later).mp member
      obtain ⟨run, whole, own⟩ := token_ends token place between first
      have kept : '\n' ∉ between.rest :=
        fun inside => lines (whole ▸ List.mem_append_right _ inside)
      exact ⟨run, between.rest, whole, own, (ih between kept).mp ⟨later, second, none_⟩⟩
    · rintro ⟨run, rest, whole, own, behind⟩
      have first := token_reaches token place run rest lines whole own
      have kept : '\n' ∉ rest := fun inside => lines (whole ▸ List.mem_append_right _ inside)
      obtain ⟨later, second, none_⟩ := (ih ⟨_, rest⟩ kept).mpr behind
      exact ⟨later, (mem_seq _ _ _ place later).mpr ⟨_, first, second⟩, none_⟩

theorem regex_matches_iff (tokens : List RouteToken) (text : List Char) (lines : '\n' ∉ text) :
    fullMatch (fun _ => false) (routeRegex tokens) text = true ↔ Instance tokens text := by
  rw [full_match_iff]
  exact regex_ends_iff tokens ⟨none, text⟩ lines

def RouteToken.wild : RouteToken → Bool
  | .character _ => false
  | _ => true

theorem wild_iff (text : List Char) :
    hasWildcard text = true ↔ ∃ token ∈ routeTokens text, token.wild = true := by
  unfold hasWildcard
  rw [Bool.or_eq_true, decide_eq_true_eq, decide_eq_true_eq]
  fun_induction routeTokens text with
  | case1 rest ih =>
    exact iff_of_true (Or.inl ⟨[], rest, rfl⟩) ⟨.path, .head _, rfl⟩
  | case2 rest ih =>
    exact iff_of_true (Or.inr ⟨[], rest, rfl⟩) ⟨.segment, .head _, rfl⟩
  | case3 c rest stars braces ih =>
    have first : ∀ d e, [d, e] <:+: c :: rest ↔ [d, e] <+: c :: rest ∨ [d, e] <:+: rest :=
      fun d e => List.infix_cons_iff
    have noStars : ¬ ['*', '*'] <+: c :: rest := by
      rintro ⟨back, whole⟩
      obtain ⟨rfl, same⟩ := List.cons.inj whole
      exact stars back rfl same.symm
    have noBraces : ¬ ['{', '}'] <+: c :: rest := by
      rintro ⟨back, whole⟩
      obtain ⟨rfl, same⟩ := List.cons.inj whole
      exact braces back rfl same.symm
    rw [first, first, or_iff_right noStars, or_iff_right noBraces, ih]
    constructor
    · rintro ⟨token, member, wild⟩
      exact ⟨token, .tail _ member, wild⟩
    · rintro ⟨token, member, wild⟩
      rcases List.mem_cons.mp member with rfl | later
      · cases wild
      · exact ⟨token, later, wild⟩
  | case4 =>
    have none_ : ∀ d e : Char, ¬ [d, e] <:+: [] := fun d e inside => by
      cases List.infix_nil.mp inside
    refine iff_of_false (not_or.mpr ⟨none_ _ _, none_ _ _⟩) ?_
    rintro ⟨token, member, -⟩
    cases member

theorem tokens_plain (text : List Char) (plain : hasWildcard text = false) :
    routeTokens text = text.map .character := by
  have none_ : ∀ token ∈ routeTokens text, token.wild = false := by
    intro token member
    rw [← Bool.not_eq_true]
    intro wild
    have some_ := (wild_iff text).mpr ⟨token, member, wild⟩
    rw [plain] at some_
    cases some_
  clear plain
  fun_induction routeTokens text with
  | case1 rest ih => cases none_ .path (.head _)
  | case2 rest ih => cases none_ .segment (.head _)
  | case3 c rest stars braces ih =>
    rw [List.map_cons, ih fun token member => none_ token (.tail _ member)]
  | case4 => rfl

theorem tokens_slash (front back : List Char) : routeTokens (front ++ '/' :: back) =
      routeTokens front ++ .character '/' :: routeTokens back := by
  fun_induction routeTokens front with
  | case1 _ ih | case2 _ ih =>
    rw [List.cons_append, List.cons_append, routeTokens, ih]
    rfl
  | case3 c rest stars braces ih =>
    rw [List.cons_append, routeTokens, ih]
    · rfl
    · intro after same whole
      cases rest with
      | nil => cases whole
      | cons d rest =>
        obtain ⟨rfl, -⟩ := List.cons.inj whole
        exact stars rest same rfl
    · intro after same whole
      cases rest with
      | nil => cases whole
      | cons d rest =>
        obtain ⟨rfl, -⟩ := List.cons.inj whole
        exact braces rest same rfl
  | case4 => rfl

theorem tokens_rendered (parts : List (List Char)) : routeTokens (rendered '/' parts) =
      parts.flatMap fun part => .character '/' :: routeTokens part := by
  have front : ∀ text, routeTokens ('/' :: text) = .character '/' :: routeTokens text :=
    fun text => tokens_slash [] text
  induction parts with
  | nil => rfl
  | cons part parts ih =>
    have shape : rendered '/' (part :: parts) = '/' :: (part ++ rendered '/' parts) := rfl
    rw [shape, front, List.flatMap_cons, List.cons_append, ← ih]
    cases parts with
    | nil => simp [rendered, routeTokens]
    | cons next parts =>
      have more : rendered '/' (next :: parts) = '/' :: (next ++ rendered '/' parts) := rfl
      rw [more, tokens_slash, front]

section

inductive RouteSegment where
  | literal (text : List Char)
  | variable_
  deriving DecidableEq

def RouteSegment.text : RouteSegment → List Char
  | .literal text => text
  | .variable_ => ['{', '}']

/-- A pattern by its segments: literals and variables, and perhaps two stars behind them. -/
structure RouteShape where
  segments : List RouteSegment
  deep : Bool
  filled : ∀ text, .literal text ∈ segments → text ≠ [] ∧ '/' ∉ text
  literal : ∀ text, .literal text ∈ segments → hasWildcard text = false
  last : deep = false → segments.getLast? ≠ some (.literal ['*'])

namespace RouteShape

variable (shape : RouteShape)

def texts : List (List Char) := shape.segments.map RouteSegment.text

def text : List Char :=
  if shape.deep then rendered '/' (shape.texts ++ [['*', '*']]) else pathText '/' shape.texts

def Literal : Prop := shape.deep = false ∧ .variable_ ∉ shape.segments

end RouteShape

def Fills : RouteSegment → List Char → Prop
  | .literal text, part => part = text
  | .variable_, part => part ≠ [] ∧ '/' ∉ part

/-- The route is the pattern with a segment for each variable and any path for the stars. -/
def Covers (shape : RouteShape) (route : List Char) : Prop :=
  ∃ parts, List.Forall₂ Fills shape.segments parts ∧
    if shape.deep then ∃ rest, route = rendered '/' parts ++ '/' :: rest
    else route = pathText '/' parts

theorem texts_plain (shape : RouteShape) : Plain '/' shape.texts := by
  intro part member
  obtain ⟨segment, inside, rfl⟩ := List.mem_map.mp member
  cases segment with
  | literal text => exact shape.filled text inside
  | variable_ => exact ⟨List.cons_ne_nil _ _, by decide⟩

theorem segment_instance (segment : RouteSegment)
    (plain : ∀ text, segment = .literal text → hasWildcard text = false) (part : List Char) :
    Instance (routeTokens segment.text) part ↔ Fills segment part := by
  cases segment with
  | literal text =>
    rw [RouteSegment.text, tokens_plain text (plain text rfl)]
    exact instance_characters text part
  | variable_ =>
    constructor
    · rintro ⟨run, rest, filled, whole, rfl, rfl⟩
      rw [List.append_nil]
      exact ⟨filled, whole⟩
    · rintro ⟨filled, whole⟩
      exact ⟨part, [], filled, whole, (List.append_nil part).symm, rfl⟩

theorem segments_instance (segments : List RouteSegment)
    (plain : ∀ text, .literal text ∈ segments → hasWildcard text = false) (text : List Char) :
    Instance (routeTokens (rendered '/' (segments.map RouteSegment.text))) text ↔
      ∃ parts, List.Forall₂ Fills segments parts ∧ text = rendered '/' parts := by
  rw [tokens_rendered, List.flatMap_map]
  induction segments generalizing text with
  | nil =>
    constructor
    · rintro rfl
      exact ⟨[], .nil, rfl⟩
    · rintro ⟨parts, filled, rfl⟩
      cases filled
      rfl
  | cons segment segments ih =>
    have own := segment_instance segment fun word same => plain word (same ▸ (.head _))
    have later := ih fun word member => plain word (.tail _ member)
    rw [List.flatMap_cons, instance_append]
    constructor
    · rintro ⟨front, back, rfl, ⟨part, rfl, first⟩, second⟩
      obtain ⟨parts, filled, rfl⟩ := (later back).mp second
      exact ⟨part :: parts, .cons ((own part).mp first) filled, rfl⟩
    · rintro ⟨parts, filled, rfl⟩
      cases filled with
      | cons first filled =>
        rename_i part parts
        exact ⟨'/' :: part, rendered '/' parts, rfl, ⟨part, rfl, (own part).mpr first⟩,
          (later _).mpr ⟨parts, filled, rfl⟩⟩

variable (shape : RouteShape)

theorem shape_instance (some_ : shape.deep = true ∨ shape.segments ≠ []) (route : List Char) :
    Instance (routeTokens shape.text) route ↔ Covers shape route := by
  unfold RouteShape.text Covers
  cases deep : shape.deep with
  | true =>
    have tail : routeTokens (rendered '/' (shape.texts ++ [['*', '*']])) =
        routeTokens (rendered '/' shape.texts) ++ [.character '/', .path] := by
      rw [tokens_rendered, tokens_rendered, List.flatMap_append]
      rfl
    simp only [if_true]
    rw [tail, instance_append]
    constructor
    · rintro ⟨front, back, rfl, first, rest, rfl, run, none_, rfl, rfl⟩
      obtain ⟨parts, filled, rfl⟩ := (segments_instance _ shape.literal front).mp first
      exact ⟨parts, filled, run ++ [], rfl⟩
    · rintro ⟨parts, filled, rest, rfl⟩
      exact ⟨rendered '/' parts, '/' :: rest, rfl,
        (segments_instance _ shape.literal _).mpr ⟨parts, filled, rfl⟩,
        rest, rfl, rest, [], (List.append_nil rest).symm, rfl⟩
  | false =>
    have more : shape.segments ≠ [] := by
      rcases some_ with held | more
      · rw [deep] at held
        cases held
      · exact more
    have own : pathText '/' shape.texts = rendered '/' shape.texts := by
      rw [pathText, if_neg]
      exact fun none_ => more (List.map_eq_nil_iff.mp none_)
    simp only [Bool.false_eq_true, if_false]
    rw [own]
    refine (segments_instance _ shape.literal route).trans ?_
    apply exists_congr
    intro parts
    apply and_congr_right
    intro filled
    have other : parts ≠ [] := by
      rintro rfl
      exact more (List.forall₂_nil_right_iff.mp filled)
    rw [pathText, if_neg other]

theorem rendered_wild (parts : List (List Char)) :
    hasWildcard (rendered '/' parts) = true ↔ ∃ part ∈ parts, hasWildcard part = true := by
  simp only [wild_iff, tokens_rendered, List.mem_flatMap]
  constructor
  · rintro ⟨token, ⟨part, inside, member⟩, wild⟩
    rcases List.mem_cons.mp member with rfl | own
    · cases wild
    · exact ⟨part, inside, token, own, wild⟩
  · rintro ⟨part, inside, token, own, wild⟩
    exact ⟨token, ⟨part, inside, .tail _ own⟩, wild⟩

theorem texts_wild :
    (∃ part ∈ shape.texts, hasWildcard part = true) ↔ .variable_ ∈ shape.segments := by
  constructor
  · rintro ⟨part, member, wild⟩
    obtain ⟨segment, inside, rfl⟩ := List.mem_map.mp member
    cases segment with
    | literal text =>
      rw [RouteSegment.text, shape.literal text inside] at wild
      cases wild
    | variable_ => exact inside
  · exact fun inside => ⟨_, List.mem_map_of_mem inside, by decide⟩

theorem shape_wild : hasWildcard shape.text = true ↔ ¬ shape.Literal := by
  unfold RouteShape.text RouteShape.Literal
  cases deep : shape.deep with
  | true =>
    refine iff_of_true ?_ (by simp)
    exact (rendered_wild _).mpr ⟨['*', '*'], by simp, by decide⟩
  | false =>
    simp only [Bool.false_eq_true, if_false, true_and, not_not]
    rw [← texts_wild]
    by_cases none_ : shape.texts = []
    · rw [none_]
      exact iff_of_false (by decide) (by simp)
    · rw [pathText, if_neg none_]
      exact rendered_wild shape.texts

theorem shape_pattern : routePattern shape.text = shape.text := by
  rw [routePattern, if_neg]
  rw [Bool.and_eq_true, Bool.not_eq_true', List.isSuffixOf_iff_suffix, Bool.eq_false_iff, ne_eq,
    List.isSuffixOf_iff_suffix]
  unfold RouteShape.text
  cases deep : shape.deep with
  | true =>
    rintro ⟨-, other⟩
    apply other
    simp only [if_true]
    rw [rendered_concat]
    exact List.suffix_append _ _
  | false =>
    simp only [Bool.false_eq_true, if_false]
    rintro ⟨star, -⟩
    have ended := (ends_with_iff '/' shape.texts (texts_plain shape) ['*'] (by simp)
      (by decide)).mp star
    rw [RouteShape.texts, List.getLast?_map] at ended
    obtain ⟨segment, found, own⟩ := Option.map_eq_some_iff.mp ended
    cases segment with
    | literal text =>
      rw [RouteSegment.text] at own
      exact shape.last deep (own ▸ found)
    | variable_ => cases own

theorem fills_literal (segments : List RouteSegment) (literal : .variable_ ∉ segments)
    (parts : List (List Char)) :
    List.Forall₂ Fills segments parts ↔ parts = segments.map RouteSegment.text := by
  induction segments generalizing parts with
  | nil => exact List.forall₂_nil_left_iff
  | cons segment segments ih =>
    rw [List.mem_cons, not_or] at literal
    rw [List.forall₂_cons_left_iff]
    constructor
    · rintro ⟨part, rest, own, filled, rfl⟩
      rw [(ih literal.2 rest).mp filled]
      cases segment with
      | literal text => exact congrArg (· :: _) own
      | variable_ => exact absurd rfl literal.1
    · rintro rfl
      refine ⟨segment.text, _, ?_, (ih literal.2 _).mpr rfl, rfl⟩
      cases segment with
      | literal text => rfl
      | variable_ => exact absurd rfl literal.1

theorem literal_covers (literal : shape.Literal) (route : List Char) :
    Covers shape route ↔ route = shape.text := by
  unfold Covers RouteShape.text
  simp only [literal.1, Bool.false_eq_true, if_false, fills_literal _ literal.2, exists_eq_left]
  exact Iff.rfl

end

section

/-- A route of two segments or more at the end of a longer one. -/
def Behind (left right : List Char) : Prop := 2 ≤ (pathSegments '/' left).length ∧
    (pathSegments '/' left).length < (pathSegments '/' right).length ∧
    pathSegments '/' left <:+ pathSegments '/' right

theorem suffix_match_iff (left right : List Char) :
    suffixMatch left right = true ↔ Behind left right ∨ Behind right left := by
  unfold suffixMatch Behind
  set leftParts := pathSegments '/' left
  set rightParts := pathSegments '/' right
  by_cases short : leftParts.length ≤ rightParts.length
  · simp only [if_pos short, Bool.and_eq_true, decide_eq_true_eq, beq_iff_eq, and_assoc]
    rw [eq_comm, ← List.suffix_iff_eq_drop, or_iff_left]
    rintro ⟨-, longer, -⟩
    omega
  · simp only [if_neg short, Bool.and_eq_true, decide_eq_true_eq, beq_iff_eq, and_assoc]
    rw [eq_comm, ← List.suffix_iff_eq_drop, or_iff_right]
    rintro ⟨-, longer, -⟩
    omega

theorem suffix_match_comm (left right : List Char) :
    suffixMatch left right = suffixMatch right left := by
  rw [Bool.eq_iff_iff, suffix_match_iff, suffix_match_iff, or_comm]

def NormalRoute (route : List Char) : Prop :=
  ∃ otherHost value, normalizeRoute otherHost value = some route

variable (route : List Char)

theorem normal_route_chars (normal : NormalRoute route) : ∀ c ∈ route, routeChar c = true := by
  obtain ⟨otherHost, value, own⟩ := normal
  have whole : normalizeRoute otherHost value = normalizeRoute otherHost (some (value.getD [])) :=
    rfl
  rw [whole, normalize_text] at own
  split at own
  · cases own
    nofun
  · rename_i filled
    have chars := found_chars (value.getD [])
    have first := rdrop_head endingMark _ '/' slash_unmarked (found_head _ filled)
    have short := (List.rdropWhile_prefix endingMark (foundRoute (value.getD []))).subset
    obtain ⟨path, found, rfl⟩ := Option.map_eq_some_iff.mp own
    generalize (foundRoute (value.getD [])).rdropWhile endingMark = reference at found first short
    have inside : (path = [] ∨ path.head? = some '/') ∧ path ⊆ reference := by
      unfold referencePath at found
      split at found
      · rename_i rest
        split at found
        · cases found
          refine ⟨host_stops rest, ?_⟩
          intro c member
          have behind := List.dropWhile_subset _ (before_query_subset _ member)
          exact .tail _ (.tail _ behind)
        · cases found
      · obtain rfl := Option.some_inj.mp found
        obtain ⟨rest, shape⟩ := List.head?_eq_some_iff.mp first
        refine ⟨Or.inr ?_, before_query_subset reference⟩
        rw [shape, before_query_slash]
        rfl
    rw [normalize_path_text path inside.1]
    intro c member
    rcases path_text_char path c member with rfl | own
    · rfl
    · exact chars c (short (inside.2 own))

theorem normal_route_lines (normal : NormalRoute route) : '\n' ∉ route := by
  intro member
  have own := normal_route_chars route normal '\n' member
  revert own
  decide

theorem pattern_lines (lines : '\n' ∉ route) : '\n' ∉ routePattern route := by
  unfold routePattern
  split
  · intro member
    rcases List.mem_append.mp member with early | stars
    · exact lines (List.dropLast_subset route early)
    · revert stars
      decide
  · exact lines

/-- Neither wildcards nor a star behind the last slash. -/
def Concrete (route : List Char) : Prop := hasWildcard route = false ∧ ¬ ['/', '*'] <:+ route

theorem concrete_pattern (concrete : Concrete route) : routePattern route = route := by
  rw [routePattern, if_neg]
  rw [Bool.and_eq_true, List.isSuffixOf_iff_suffix]
  exact fun star => concrete.2 star.1

/-- The comparison is symmetric, and sound for a pattern and a route without wildcards. -/
structure RouteLaw (a b : List Char) : Prop where
  symmetric : routesMatch a b = routesMatch b a
  sound : ∀ shape : RouteShape, shape.text = a → Concrete b →
    (routesMatch a b = true ↔ Covers shape b ∨ (shape.Literal ∧ (Behind a b ∨ Behind b a)))

variable (a b : List Char)

theorem match_wild (other : a ≠ b) (wild : hasWildcard (routePattern a) = true) : routesMatch a b =
      fullMatch (fun _ => false) (routeRegex (routeTokens (routePattern a))) (routePattern b) := by
  simp only [routesMatch, if_neg other, if_pos wild]

theorem match_value (other : a ≠ b) (plain : hasWildcard (routePattern a) = false)
    (wild : hasWildcard (routePattern b) = true) : routesMatch a b =
      fullMatch (fun _ => false) (routeRegex (routeTokens (routePattern b))) (routePattern a) := by
  simp only [routesMatch, if_neg other, plain, Bool.false_eq_true, if_false, if_pos wild]

theorem match_plain (other : a ≠ b) (plainA : hasWildcard (routePattern a) = false)
    (plainB : hasWildcard (routePattern b) = false) :
    routesMatch a b = suffixMatch (routePattern a) (routePattern b) := by
  simp only [routesMatch, if_neg other, plainA, plainB, Bool.false_eq_true, if_false]

variable (normalA : NormalRoute a) (normalB : NormalRoute b)

include normalA normalB

theorem match_symmetric_iff : routesMatch a b = routesMatch b a ↔
    ¬ (hasWildcard (routePattern a) = true ∧ hasWildcard (routePattern b) = true) ∨
      (Instance (routeTokens (routePattern a)) (routePattern b) ↔
        Instance (routeTokens (routePattern b)) (routePattern a)) := by
  by_cases same : a = b
  · rw [same]
    exact iff_of_true rfl (Or.inr Iff.rfl)
  cases wildA : hasWildcard (routePattern a) with
  | true =>
    cases wildB : hasWildcard (routePattern b) with
    | true =>
      have linesA := pattern_lines a (normal_route_lines a normalA)
      have linesB := pattern_lines b (normal_route_lines b normalB)
      rw [match_wild a b same wildA, match_wild b a (Ne.symm same) wildB, Bool.eq_iff_iff,
        regex_matches_iff _ _ linesB, regex_matches_iff _ _ linesA]
      simp
    | false =>
      rw [match_wild a b same wildA, match_value b a (Ne.symm same) wildB wildA]
      simp
  | false =>
    cases wildB : hasWildcard (routePattern b) with
    | true =>
      rw [match_value a b same wildA wildB, match_wild b a (Ne.symm same) wildB]
      simp
    | false =>
      rw [match_plain a b same wildA wildB, match_plain b a (Ne.symm same) wildB wildA]
      exact iff_of_true (suffix_match_comm _ _) (Or.inl (by simp))

omit normalA in
theorem match_sound (shape : RouteShape) (text : shape.text = a) (concrete : Concrete b) :
    routesMatch a b = true ↔ Covers shape b ∨ (shape.Literal ∧ (Behind a b ∨ Behind b a)) := by
  have own : routePattern a = a := by
    rw [← text]
    exact shape_pattern shape
  have value := concrete_pattern b concrete
  have plain : hasWildcard (routePattern b) = false := by
    rw [value]
    exact concrete.1
  have wildness := shape_wild shape
  rw [text, ← own] at wildness
  cases wild : hasWildcard (routePattern a) with
  | true =>
    have notLiteral := wildness.mp wild
    have other : a ≠ b := by
      rintro rfl
      rw [plain] at wild
      cases wild
    have some_ : shape.deep = true ∨ shape.segments ≠ [] := by
      by_contra none_
      rw [not_or, Bool.not_eq_true, not_not] at none_
      apply notLiteral
      refine ⟨none_.1, ?_⟩
      rw [none_.2]
      exact List.not_mem_nil
    rw [match_wild a b other wild, value, regex_matches_iff _ _ (normal_route_lines b normalB),
      own, ← text, shape_instance shape some_]
    exact (or_iff_left fun held => notLiteral held.1).symm
  | false =>
    have literal : shape.Literal := by
      by_contra notLiteral
      rw [wildness.mpr notLiteral] at wild
      cases wild
    rw [literal_covers shape literal, text]
    by_cases same : a = b
    · rw [same]
      exact iff_of_true (if_pos rfl) (Or.inl rfl)
    · rw [match_plain a b same wild plain, suffix_match_iff, own, value,
        or_iff_right (Ne.symm same)]
      exact (and_iff_right literal).symm

/-- The law holds exactly where not both routes have wildcards, or each is an instance of the other
or neither is. -/
theorem route_law_iff : RouteLaw a b ↔
    ¬ (hasWildcard (routePattern a) = true ∧ hasWildcard (routePattern b) = true) ∨
      (Instance (routeTokens (routePattern a)) (routePattern b) ↔
        Instance (routeTokens (routePattern b)) (routePattern a)) := by
  rw [← match_symmetric_iff a b normalA normalB]
  constructor
  · exact RouteLaw.symmetric
  · exact fun symmetric => ⟨symmetric, match_sound a b normalB⟩

end

theorem normal_starred : NormalRoute ['/', '*', '*'] :=
  ⟨fun _ => true, some ['/', '*', '*'], by decide⟩

theorem normal_literal : NormalRoute ['/', 'a', '/', 'b'] :=
  ⟨fun _ => true, some ['/', 'a', '/', 'b'], by decide⟩

theorem route_law_literal : RouteLaw ['/', '*', '*'] ['/', 'a', '/', 'b'] :=
  (route_law_iff _ _ normal_starred normal_literal).mpr (Or.inl (by decide))

/-- `/**` covers `/{}/b` and not the other way round. -/
theorem order_decides : ¬ ∀ a b, NormalRoute a → NormalRoute b → RouteLaw a b := by
  intro law
  have variable_ : NormalRoute ['/', '{', '}', '/', 'b'] :=
    ⟨fun _ => true, some ['/', '{', '}', '/', 'b'], by decide⟩
  have same := (law _ _ normal_starred variable_).symmetric
  revert same
  decide

end DosWeb.Benchmark
