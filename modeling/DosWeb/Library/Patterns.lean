import Mathlib.Data.List.Basic
import Mathlib.Data.List.TakeWhile

/-!
Patterns with ordered choice and greedy repetition: where a pattern that starts at a place of a
text can end, in the order in which a backtracking search finds the ends.
-/

namespace DosWeb.Library.Patterns

/-- A place in a text: the character before it, and the characters after it. -/
structure Place where
  before : Option Char
  rest : List Char
  deriving DecidableEq

inductive Pattern where
  | empty
  | one (accepts : Char → Bool)
  | seq (first second : Pattern)
  | either (left right : Pattern)
  | many (inner : Pattern)
  | few (inner : Pattern)
  | boundary

/-- The places after repetitions that each consume something, the longest first. -/
def manyEnds (step : Place → List Place) : Nat → Place → List Place
  | 0, place => [place]
  | fuel + 1, place =>
    ((step place).filter fun next => next.rest.length < place.rest.length).flatMap
      (manyEnds step fuel) ++ [place]

/-- The places after repetitions that each consume something, the shortest first. -/
def fewEnds (step : Place → List Place) : Nat → Place → List Place
  | 0, place => [place]
  | fuel + 1, place =>
    place :: ((step place).filter fun next => next.rest.length < place.rest.length).flatMap
      (fewEnds step fuel)

section

variable (isWord : Char → Bool)

def wordAt : Option Char → Bool
  | some c => isWord c
  | none => false

def ends : Pattern → Place → List Place
  | .empty, place => [place]
  | .one accepts, place =>
    match place.rest with
    | c :: rest => if accepts c then [⟨some c, rest⟩] else []
    | [] => []
  | .seq first second, place => (ends first place).flatMap (ends second)
  | .either left right, place => ends left place ++ ends right place
  | .many inner, place => manyEnds (ends inner) place.rest.length place
  | .few inner, place => fewEnds (ends inner) place.rest.length place
  | .boundary, place =>
    if wordAt isWord place.before != wordAt isWord place.rest.head? then [place] else []

/-- Where the pattern ends that starts at a place, if it starts there. -/
def matchAt (pattern : Pattern) (place : Place) : Option Place := (ends isWord pattern place).head?

/-- The ends of the matches from left to right, none of which overlap: after a match as many
characters are skipped as it consumed. -/
def matchesFrom (pattern : Pattern) : Nat → Option Char → List Char → List Place
  | _, _, [] => []
  | skipped + 1, _, c :: rest => matchesFrom pattern skipped (some c) rest
  | 0, before, c :: rest =>
    match matchAt isWord pattern ⟨before, c :: rest⟩ with
    | some found =>
      found :: matchesFrom pattern ((c :: rest).length - found.rest.length - 1) (some c) rest
    | none => matchesFrom pattern 0 (some c) rest

def findAll (pattern : Pattern) (text : List Char) : List Place :=
  matchesFrom isWord pattern 0 none text

def offset (text : List Char) (place : Place) : Nat := text.length - place.rest.length

end

section

def Reaches (place later : Place) : Prop :=
  ∃ consumed, place.rest = consumed ++ later.rest ∧ later.before = consumed.getLast?.or place.before

theorem reaches_self (place : Place) : Reaches place place := ⟨[], rfl, rfl⟩

theorem reaches_trans (first second third : Place) (one : Reaches first second)
    (two : Reaches second third) : Reaches first third := by
  obtain ⟨front, whole, before⟩ := one
  obtain ⟨back, rest, after⟩ := two
  refine ⟨front ++ back, ?_, ?_⟩
  · rw [whole, rest, List.append_assoc]
  · rw [after, before, List.getLast?_append, Option.or_assoc]

section

variable (step : Place → List Place) (each : ∀ place, ∀ next ∈ step place, Reaches place next)
  (fuel : Nat) (place later : Place)

include each

theorem many_reaches (member : later ∈ manyEnds step fuel place) : Reaches place later := by
  induction fuel generalizing place with
  | zero => exact List.mem_singleton.mp member ▸ reaches_self place
  | succ fuel ih =>
    rcases List.mem_append.mp member with further | here
    · obtain ⟨next, inside, found⟩ := List.mem_flatMap.mp further
      exact reaches_trans place next later (each place next (List.mem_of_mem_filter inside))
        (ih next found)
    · exact List.mem_singleton.mp here ▸ reaches_self place

theorem few_reaches (member : later ∈ fewEnds step fuel place) : Reaches place later := by
  induction fuel generalizing place with
  | zero => exact List.mem_singleton.mp member ▸ reaches_self place
  | succ fuel ih =>
    rcases List.mem_cons.mp member with here | further
    · exact here ▸ reaches_self place
    · obtain ⟨next, inside, found⟩ := List.mem_flatMap.mp further
      exact reaches_trans place next later (each place next (List.mem_of_mem_filter inside))
        (ih next found)

end

variable (isWord : Char → Bool)

theorem ends_reach (pattern : Pattern) (place later : Place)
    (member : later ∈ ends isWord pattern place) : Reaches place later := by
  induction pattern generalizing place later with
  | empty => exact List.mem_singleton.mp member ▸ reaches_self place
  | one accepts =>
    unfold ends at member
    split at member
    · rename_i c rest shape
      split at member
      · rw [List.mem_singleton.mp member]
        exact ⟨[c], shape, rfl⟩
      · cases member
    · cases member
  | seq first second ihFirst ihSecond =>
    obtain ⟨between, one, two⟩ := List.mem_flatMap.mp member
    exact reaches_trans place between later (ihFirst place between one)
      (ihSecond between later two)
  | either left right ihLeft ihRight =>
    rcases List.mem_append.mp member with one | two
    · exact ihLeft place later one
    · exact ihRight place later two
  | many inner ih => exact many_reaches _ ih _ place later member
  | few inner ih => exact few_reaches _ ih _ place later member
  | boundary =>
    unfold ends at member
    split at member
    · exact List.mem_singleton.mp member ▸ reaches_self place
    · cases member

/-- The places of a text, behind a character that stands before it. -/
def places : Option Char → List Char → List Place
  | before, [] => [⟨before, []⟩]
  | before, c :: rest => ⟨before, c :: rest⟩ :: places (some c) rest

theorem mem_places (before : Option Char) (text : List Char) (place : Place) :
    place ∈ places before text ↔ Reaches ⟨before, text⟩ place := by
  induction text generalizing before with
  | nil =>
    rw [places, List.mem_singleton]
    constructor
    · rintro rfl
      exact reaches_self _
    · rintro ⟨consumed, whole, placed⟩
      obtain ⟨none_, rest⟩ := List.append_eq_nil_iff.mp whole.symm
      rw [none_] at placed
      obtain ⟨held, left⟩ := place
      cases placed
      cases rest
      rfl
  | cons c rest ih =>
    have stepped : Reaches ⟨before, c :: rest⟩ ⟨some c, rest⟩ := ⟨[c], rfl, rfl⟩
    rw [places, List.mem_cons, ih]
    constructor
    · rintro (rfl | later)
      · exact reaches_self _
      · exact reaches_trans _ _ _ stepped later
    · rintro ⟨consumed, whole, placed⟩
      cases consumed with
      | nil =>
        obtain ⟨held, left⟩ := place
        cases whole
        cases placed
        exact Or.inl rfl
      | cons first consumed =>
        obtain ⟨rfl, same⟩ := List.cons.inj whole
        refine Or.inr ⟨consumed, same, ?_⟩
        rw [placed, List.getLast?_cons]
        cases consumed.getLast? <;> rfl

end

section

variable (isWord : Char → Bool) (pattern : Pattern)

theorem found_reaches (skipped : Nat) (before : Option Char) (text : List Char) (found : Place)
    (member : found ∈ matchesFrom isWord pattern skipped before text) :
    ∃ start, Reaches ⟨before, text⟩ start ∧ matchAt isWord pattern start = some found := by
  induction text generalizing skipped before with
  | nil =>
    unfold matchesFrom at member
    cases member
  | cons c rest ih =>
    have stepped : Reaches ⟨before, c :: rest⟩ ⟨some c, rest⟩ := ⟨[c], rfl, rfl⟩
    unfold matchesFrom at member
    split at member
    · rename_i heq
      cases heq
    · rename_i heq
      cases heq
      obtain ⟨start, later, own⟩ := ih _ _ member
      exact ⟨start, reaches_trans _ _ _ stepped later, own⟩
    · rename_i heq
      cases heq
      split at member
      · rename_i place matched
        rcases List.mem_cons.mp member with rfl | further
        · exact ⟨_, reaches_self _, matched⟩
        · obtain ⟨start, later, own⟩ := ih _ _ further
          exact ⟨start, reaches_trans _ _ _ stepped later, own⟩
      · obtain ⟨start, later, own⟩ := ih _ _ member
        exact ⟨start, reaches_trans _ _ _ stepped later, own⟩

theorem find_none_iff (before : Option Char) (text : List Char) :
    matchesFrom isWord pattern 0 before text = [] ↔
      ∀ start, Reaches ⟨before, text⟩ start → start.rest ≠ [] →
        matchAt isWord pattern start = none := by
  induction text generalizing before with
  | nil =>
    refine iff_of_true rfl ?_
    rintro start ⟨consumed, whole, -⟩ filled
    exact absurd (List.append_eq_nil_iff.mp whole.symm).2 filled
  | cons c rest ih =>
    have stepped : Reaches ⟨before, c :: rest⟩ ⟨some c, rest⟩ := ⟨[c], rfl, rfl⟩
    unfold matchesFrom
    cases own : matchAt isWord pattern ⟨before, c :: rest⟩ with
    | some found =>
      refine iff_of_false (List.cons_ne_nil _ _) ?_
      intro nowhere
      have absent := nowhere _ (reaches_self _) (List.cons_ne_nil _ _)
      rw [own] at absent
      cases absent
    | none =>
      dsimp only
      rw [ih]
      constructor
      · rintro later start ⟨consumed, whole, placed⟩ filled
        cases consumed with
        | nil =>
          obtain ⟨held, left⟩ := start
          cases whole
          cases placed
          exact own
        | cons first consumed =>
          obtain ⟨rfl, same⟩ := List.cons.inj whole
          refine later start ⟨consumed, same, ?_⟩ filled
          rw [placed, List.getLast?_cons]
          cases consumed.getLast? <;> rfl
      · intro nowhere start reached filled
        exact nowhere start (reaches_trans _ _ _ stepped reached) filled

/-- A match that ends behind a character ends after a part of the text that ends with it. -/
theorem found_after (text : List Char) (found : Place) (d : Char)
    (member : found ∈ findAll isWord pattern text) (before : found.before = some d) :
    ∃ front, text = front ++ d :: found.rest ∧ offset text found = front.length + 1 := by
  obtain ⟨start, reached, own⟩ := found_reaches isWord pattern 0 none text found member
  obtain ⟨consumed, whole, last⟩ := reaches_trans _ start found reached
    (ends_reach isWord pattern start found (List.mem_of_head? own))
  rw [Option.or_none, before] at last
  obtain ⟨front, rfl⟩ := List.getLast?_eq_some_iff.mp last.symm
  refine ⟨front, ?_, ?_⟩
  · simpa using whole
  · have size := congrArg List.length whole
    simp only [List.length_append, List.length_singleton] at size
    unfold offset
    omega

theorem found_matches (text : List Char) (found : Place)
    (member : found ∈ findAll isWord pattern text) :
    ∃ start, matchAt isWord pattern start = some found := by
  obtain ⟨start, -, own⟩ := found_reaches isWord pattern 0 none text found member
  exact ⟨start, own⟩

end

section

theorem many_filled (step : Place → List Place) (fuel : Nat) (place : Place) :
    manyEnds step fuel place ≠ [] := by
  cases fuel with
  | zero => exact List.cons_ne_nil _ _
  | succ fuel => exact List.append_ne_nil_of_right_ne_nil _ (List.cons_ne_nil _ _)

theorem head_flat_map {α β : Type} (items : List α) (step : α → List β) (first : β)
    (found : (items.flatMap step).head? = some first) :
    ∃ item ∈ items, (step item).head? = some first := by
  induction items with
  | nil => cases found
  | cons item items ih =>
    rw [List.flatMap_cons] at found
    cases own : step item with
    | nil =>
      rw [own, List.nil_append] at found
      obtain ⟨other, member, same⟩ := ih found
      exact ⟨other, .tail _ member, same⟩
    | cons head tail =>
      rw [own] at found
      exact ⟨item, .head _, own ▸ found⟩

variable (isWord : Char → Bool)

theorem mem_seq (first second : Pattern) (place later : Place) :
    later ∈ ends isWord (.seq first second) place ↔
      ∃ between ∈ ends isWord first place, later ∈ ends isWord second between := List.mem_flatMap

variable (accepts : Char → Bool)

theorem mem_one (place later : Place) : later ∈ ends isWord (.one accepts) place ↔
      ∃ c, place.rest = c :: later.rest ∧ accepts c = true ∧ later.before = some c := by
  obtain ⟨before, rest⟩ := later
  unfold ends
  constructor
  · intro member
    split at member
    · rename_i c tail shape
      split at member
      · rename_i accepted
        cases List.mem_singleton.mp member
        exact ⟨c, shape, accepted, rfl⟩
      · cases member
    · cases member
  · rintro ⟨c, shape, accepted, placed⟩
    rw [shape]
    dsimp only at placed ⊢
    rw [if_pos accepted, placed]
    exact List.mem_singleton_self _

theorem many_one_first (fuel : Nat) (place : Place) (enough : place.rest.length ≤ fuel) :
    (manyEnds (ends isWord (.one accepts)) fuel place).head?.map Place.rest =
      some (place.rest.dropWhile accepts) := by
  induction fuel generalizing place with
  | zero =>
    have none_ : place.rest = [] := List.length_eq_zero_iff.mp (Nat.le_zero.mp enough)
    simp [manyEnds, none_]
  | succ fuel ih =>
    cases shape : place.rest with
    | nil => simp [manyEnds, ends, shape]
    | cons c rest =>
      by_cases accepted : accepts c = true
      · have one : ends isWord (.one accepts) place = [⟨some c, rest⟩] := by
          simp [ends, shape, accepted]
        have further := ih ⟨some c, rest⟩ (by
          rw [shape, List.length_cons] at enough
          simpa using enough)
        have shorter : ([⟨some c, rest⟩] : List Place).filter
            (fun next => next.rest.length < place.rest.length) = [⟨some c, rest⟩] := by
          simp [shape]
        rw [List.dropWhile_cons_of_pos accepted, ← further, manyEnds, one, shorter,
          List.flatMap_singleton, List.head?_append_of_ne_nil _ (many_filled _ _ _)]
      · have none_ : ends isWord (.one accepts) place = [] := by
          simp [ends, shape, accepted]
        simp [manyEnds, none_, shape, accepted]

theorem many_one_consumed (fuel : Nat) (place later : Place)
    (member : later ∈ manyEnds (ends isWord (.one accepts)) fuel place) :
    ∃ consumed, place.rest = consumed ++ later.rest ∧ (∀ c ∈ consumed, accepts c = true) ∧
      later.before = consumed.getLast?.or place.before := by
  induction fuel generalizing place with
  | zero =>
    rw [List.mem_singleton.mp member]
    exact ⟨[], rfl, nofun, rfl⟩
  | succ fuel ih =>
    rcases List.mem_append.mp member with further | here
    · obtain ⟨next, inside, found⟩ := List.mem_flatMap.mp further
      obtain ⟨c, shape, accepted, placed⟩ :=
        (mem_one isWord accepts place next).mp (List.mem_of_mem_filter inside)
      obtain ⟨consumed, whole, all, before⟩ := ih next found
      refine ⟨c :: consumed, by rw [shape, whole]; rfl, ?_, ?_⟩
      · intro d listed
        rcases List.mem_cons.mp listed with rfl | later_
        · exact accepted
        · exact all d later_
      · rw [before, placed, List.getLast?_cons]
        cases consumed.getLast? <;> rfl
    · rw [List.mem_singleton.mp here]
      exact ⟨[], rfl, nofun, rfl⟩

theorem many_one_reaches (place : Place) : ∃ later ∈ ends isWord (.many (.one accepts)) place,
      later.rest = place.rest.dropWhile accepts := by
  have first := many_one_first isWord accepts place.rest.length place (le_refl _)
  obtain ⟨later, found, same⟩ := Option.map_eq_some_iff.mp first
  exact ⟨later, List.mem_of_head? found, same⟩

theorem many_one_all (consumed : List Char) (fuel : Nat)
    (place later : Place) (enough : place.rest.length ≤ fuel)
    (whole : place.rest = consumed ++ later.rest) (all : ∀ c ∈ consumed, accepts c = true)
    (before : later.before = consumed.getLast?.or place.before) :
    later ∈ manyEnds (ends isWord (.one accepts)) fuel place := by
  induction consumed generalizing fuel place with
  | nil =>
    obtain ⟨held, left⟩ := later
    cases whole
    cases before
    cases fuel with
    | zero => exact List.mem_singleton_self _
    | succ fuel => exact List.mem_append_right _ (List.mem_singleton_self _)
  | cons c consumed ih =>
    have size := congrArg List.length whole
    rw [List.cons_append, List.length_cons] at size
    cases fuel with
    | zero => omega
    | succ fuel =>
      apply List.mem_append_left
      apply List.mem_flatMap.mpr
      refine ⟨⟨some c, consumed ++ later.rest⟩, ?_, ?_⟩
      · apply List.mem_filter.mpr
        refine ⟨?_, by simp [size]⟩
        exact (mem_one isWord accepts place _).mpr ⟨c, whole, all c (.head _), rfl⟩
      · apply ih
        · dsimp only
          omega
        · rfl
        · exact fun d member => all d (.tail _ member)
        · rw [before, List.getLast?_cons]
          cases consumed.getLast? <;> rfl

theorem mem_many_one (place later : Place) : later ∈ ends isWord (.many (.one accepts)) place ↔
      ∃ consumed, place.rest = consumed ++ later.rest ∧ (∀ c ∈ consumed, accepts c = true) ∧
        later.before = consumed.getLast?.or place.before := by
  constructor
  · exact many_one_consumed isWord accepts _ place later
  · rintro ⟨consumed, whole, all, before⟩
    exact many_one_all isWord accepts consumed _ place later (le_refl _) whole all before

end

variable (isWord : Char → Bool)

def fullMatch (pattern : Pattern) (text : List Char) : Bool :=
  (ends isWord pattern ⟨none, text⟩).any fun place => place.rest.isEmpty

theorem full_match_iff (pattern : Pattern) (text : List Char) :
    fullMatch isWord pattern text = true ↔
      ∃ place ∈ ends isWord pattern ⟨none, text⟩, place.rest = [] := by
  simp [fullMatch, List.any_eq_true]

end DosWeb.Library.Patterns
