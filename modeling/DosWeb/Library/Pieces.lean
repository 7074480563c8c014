import Mathlib.Data.List.Forall2
import Mathlib.Data.List.TakeWhile

/-!
Sequences cut into pieces after the items where they break; whether one breaks after an item
depends on the next item too.
-/

namespace DosWeb.Library.Pieces

variable {α : Type} (breaks : α → Option α → Bool)

def pieces : List α → List (List α)
  | [] => []
  | item :: rest =>
    if breaks item rest.head? then [item] :: pieces rest
    else
      match pieces rest with
      | [] => [[item]]
      | piece :: others => (item :: piece) :: others

theorem pieces_step (item : α) (rest : List α) : pieces breaks (item :: rest) =
    if breaks item rest.head? then [item] :: pieces breaks rest
    else
      match pieces breaks rest with
      | [] => [[item]]
      | piece :: others => (item :: piece) :: others :=
  rfl

theorem pieces_broken (item : α) (rest : List α) (broken : breaks item rest.head? = true) :
    pieces breaks (item :: rest) = [item] :: pieces breaks rest :=
  if_pos broken

theorem pieces_last (item : α) : pieces breaks [item] = [[item]] := by
  rw [pieces_step]
  split <;> rfl

theorem pieces_joined (item : α) (rest piece : List α) (others : List (List α))
    (open_ : breaks item rest.head? = false) (shape : pieces breaks rest = piece :: others) :
    pieces breaks (item :: rest) = (item :: piece) :: others := by
  rw [pieces_step, open_, shape]
  rfl

variable (items : List α)

theorem pieces_flatten : (pieces breaks items).flatten = items := by
  induction items with
  | nil => rfl
  | cons item rest ih =>
    rw [pieces_step]
    split
    · rw [List.flatten_cons, ih]
      rfl
    · split
      · rename_i none_
        rw [none_] at ih
        rw [← ih]
        rfl
      · rename_i piece others shape
        rw [shape] at ih
        rw [← ih]
        rfl

theorem pieces_filled : ∀ piece ∈ pieces breaks items, piece ≠ [] := by
  induction items with
  | nil => nofun
  | cons item rest ih =>
    intro piece member
    rw [pieces_step] at member
    split at member
    · rcases List.mem_cons.mp member with rfl | later
      · exact List.cons_ne_nil _ _
      · exact ih piece later
    · split at member
      · rw [List.mem_singleton.mp member]
        exact List.cons_ne_nil _ _
      · rename_i first others shape
        rcases List.mem_cons.mp member with rfl | later
        · exact List.cons_ne_nil _ _
        · exact ih piece (shape ▸ .tail _ later)

theorem pieces_nil_iff : pieces breaks items = [] ↔ items = [] := by
  constructor
  · intro none_
    have whole := pieces_flatten breaks items
    rw [none_] at whole
    exact whole.symm
  · rintro rfl
    rfl

def Solid : List α → Prop
  | [] => True
  | [_] => True
  | item :: next :: rest => breaks item (some next) = false ∧ Solid (next :: rest)

/-- Whether a piece ends where the sequence goes on with an item. -/
def endsBefore (piece : List α) (next : Option α) : Bool :=
  match piece.getLast? with
  | some last => breaks last next
  | none => false

theorem solid_cons (item : α) (rest : List α) (open_ : rest ≠ [] → breaks item rest.head? = false)
    (solid : Solid breaks rest) : Solid breaks (item :: rest) := by
  cases rest with
  | nil => trivial
  | cons next rest => exact ⟨open_ (List.cons_ne_nil _ _), solid⟩

theorem solid_inside (front : List α) (item : α) (back : List α)
    (solid : Solid breaks (front ++ item :: back)) (more : back ≠ []) :
    breaks item back.head? = false := by
  induction front with
  | nil =>
    obtain ⟨next, rest, rfl⟩ := List.exists_cons_of_ne_nil more
    exact solid.1
  | cons first front ih =>
    apply ih
    cases front with
    | nil => exact solid.2
    | cons second front => exact solid.2

theorem pieces_solid : ∀ piece ∈ pieces breaks items, Solid breaks piece := by
  induction items with
  | nil => nofun
  | cons item rest ih =>
    intro piece member
    rw [pieces_step] at member
    split at member
    · rcases List.mem_cons.mp member with rfl | later
      · trivial
      · exact ih piece later
    · rename_i open_
      split at member
      · rw [List.mem_singleton.mp member]
        trivial
      · rename_i first others shape
        rcases List.mem_cons.mp member with rfl | later
        · have filled := pieces_filled breaks rest first (shape ▸ (.head _))
          have whole := pieces_flatten breaks rest
          rw [shape, List.flatten_cons] at whole
          have head : rest.head? = first.head? := by
            rw [← whole, List.head?_append_of_ne_nil _ filled]
          rw [head] at open_
          exact solid_cons breaks item first (fun _ => by simpa using open_)
            (ih first (shape ▸ (.head _)))
        · exact ih piece (shape ▸ .tail _ later)

theorem pieces_cons (piece rest : List α) (filled : piece ≠ []) (solid : Solid breaks piece)
    (ended : rest ≠ [] → endsBefore breaks piece rest.head? = true) :
    pieces breaks (piece ++ rest) = piece :: pieces breaks rest := by
  induction piece with
  | nil => exact absurd rfl filled
  | cons item piece ih =>
    cases piece with
    | nil =>
      cases rest with
      | nil =>
        exact pieces_last breaks item
      | cons next rest =>
        have broken : breaks item (some next) = true := ended (List.cons_ne_nil _ _)
        exact pieces_broken breaks item (next :: rest) broken
    | cons next piece =>
      have later := ih (List.cons_ne_nil _ _) solid.2 ended
      rw [List.cons_append, pieces_step, later]
      rw [if_neg]
      simpa using solid.1

theorem pieces_open (run rest first : List α) (others : List (List α))
    (solid : Solid breaks run) (open_ : endsBefore breaks run rest.head? = false)
    (found : pieces breaks rest = first :: others) :
    pieces breaks (run ++ rest) = (run ++ first) :: others := by
  induction run with
  | nil => exact found
  | cons item run ih =>
    cases run with
    | nil => exact pieces_joined breaks item rest first others open_ found
    | cons next run =>
      have later := ih solid.2 open_
      exact pieces_joined breaks item _ _ _ solid.1 later

theorem pieces_ended (items front : List α) (lead back : List (List α)) (next : List α)
    (shape : pieces breaks items = lead ++ front :: next :: back) :
    endsBefore breaks front next.head? = true := by
  induction items generalizing lead front next back with
  | nil =>
    have size := congrArg List.length shape
    simp [pieces] at size
  | cons item rest ih =>
    have whole := pieces_flatten breaks rest
    rw [pieces_step] at shape
    split at shape
    · rename_i broken
      cases lead with
      | nil =>
        obtain ⟨rfl, rest_⟩ := List.cons.inj shape
        rw [rest_, List.flatten_cons] at whole
        have filled := pieces_filled breaks rest next (rest_ ▸ (.head _))
        have head : rest.head? = next.head? := by
          rw [← whole, List.head?_append_of_ne_nil _ filled]
        rw [head] at broken
        exact broken
      | cons own lead => exact ih _ _ _ _ (List.cons.inj shape).2
    · split at shape
      · have size := congrArg List.length shape
        simp at size
        omega
      · rename_i piece others found
        cases lead with
        | nil =>
          obtain ⟨rfl, rest_⟩ := List.cons.inj shape
          have later := ih piece [] back next (by rw [found, rest_]; rfl)
          unfold endsBefore at later ⊢
          have filled := pieces_filled breaks rest piece (found ▸ (.head _))
          rw [List.getLast?_cons_of_ne_nil filled]
          exact later
        | cons own lead =>
          exact ih _ (piece :: lead) _ _ (by rw [found, (List.cons.inj shape).2]; rfl)

theorem pieces_rest (items piece : List α) (others : List (List α))
    (shape : pieces breaks items = piece :: others) : pieces breaks others.flatten = others := by
  induction items generalizing piece others with
  | nil => cases shape
  | cons item rest ih =>
    rw [pieces_step] at shape
    split at shape
    · rw [← (List.cons.inj shape).2, pieces_flatten]
    · split at shape
      · rw [← (List.cons.inj shape).2]
        rfl
      · rename_i found
        rw [← (List.cons.inj shape).2]
        exact ih _ _ found

theorem solid_back (front back : List α) (solid : Solid breaks (front ++ back)) :
    Solid breaks back := by
  induction front with
  | nil => exact solid
  | cons item front ih =>
    apply ih
    cases shape : front ++ back with
    | nil => trivial
    | cons next rest =>
      rw [List.cons_append, shape] at solid
      exact solid.2

theorem zip_firsts {β : Type} (left : List α) (right : List β) :
    (left.zip right).map Prod.fst = left.take right.length := by
  induction left generalizing right with
  | nil => simp
  | cons item left ih =>
    cases right with
    | nil => rfl
    | cons other right =>
      rw [List.zip_cons_cons, List.map_cons, ih, List.length_cons, List.take_succ_cons]

theorem items_split (index : Nat) (item : α) (found : items[index]? = some item) :
    items = items.take index ++ item :: items.drop (index + 1) ∧
      (items.take index).length = index := by
  obtain ⟨inside, same⟩ := List.getElem?_eq_some_iff.mp found
  constructor
  · rw [← same, ← List.drop_eq_getElem_cons inside, List.take_append_drop]
  · rw [List.length_take]
    omega

theorem items_last_two (count : Nat) (last : α)
    (size : items.length = count + 2) (at_ : items[count + 1]? = some last) :
    ∃ lead prev, items = lead ++ [prev, last] := by
  obtain ⟨prev, final, two⟩ := List.length_eq_two.mp
    (show (items.drop count).length = 2 by rw [List.length_drop]; omega)
  have whole := List.take_append_drop count items
  rw [two] at whole
  have same : (items.drop count)[1]? = some last := by
    rw [List.getElem?_drop, at_]
  rw [two] at same
  cases same
  exact ⟨items.take count, prev, whole.symm⟩

theorem place_after (front back lead rest : List α) (c z : α)
    (same : front ++ c :: back = lead ++ z :: rest) (later : lead.length ≤ front.length) :
    (front.length = lead.length ∧ c = z ∧ back = rest) ∨ c ∈ rest := by
  rcases List.append_eq_append_iff.mp same with ⟨more, rfl, other⟩ | ⟨more, rfl, other⟩
  · cases more with
    | nil =>
      obtain ⟨rfl, rfl⟩ := List.cons.inj other
      exact Or.inl ⟨by simp, rfl, rfl⟩
    | cons first more =>
      rw [List.length_append, List.length_cons] at later
      omega
  · cases more with
    | nil =>
      obtain ⟨rfl, rfl⟩ := List.cons.inj other
      exact Or.inl ⟨by simp, rfl, rfl⟩
    | cons first more =>
      obtain ⟨rfl, rfl⟩ := List.cons.inj other
      exact Or.inr (List.mem_append_right _ (.head _))

/-- Of two sequences of one length, the second breaks nowhere but where the first does. -/
inductive Coarser : List α → List α → Prop
  | nil : Coarser [] []
  | cons (fine coarse : α) (fines coarses : List α)
      (kept : breaks coarse coarses.head? = true → breaks fine fines.head? = true)
      (rest : Coarser fines coarses) : Coarser (fine :: fines) (coarse :: coarses)

theorem coarser_same : Coarser breaks items items := by
  induction items with
  | nil => exact .nil
  | cons item rest ih => exact .cons item item rest rest id ih

section

variable (fine coarse : List α) (coarser : Coarser breaks fine coarse)

include coarser

theorem coarser_length : fine.length = coarse.length := by
  induction coarser with
  | nil => rfl
  | cons _ _ _ _ _ _ ih => rw [List.length_cons, List.length_cons, ih]

/-- The coarser sequence has no more pieces, and pieces of the same lengths if it has as many. -/
theorem coarser_pieces :
    (pieces breaks coarse).length ≤ (pieces breaks fine).length ∧
      ((pieces breaks coarse).length = (pieces breaks fine).length →
        (pieces breaks coarse).map List.length = (pieces breaks fine).map List.length) := by
  induction coarser with
  | nil => exact ⟨le_refl _, fun _ => rfl⟩
  | cons one other fines coarses kept rest ih =>
    have size := coarser_length breaks fines coarses rest
    by_cases broken : breaks other coarses.head? = true
    · rw [pieces_broken _ _ _ broken, pieces_broken _ _ _ (kept broken)]
      simp only [List.length_cons, List.map_cons, List.length_nil, List.cons.injEq, true_and]
      exact ⟨by omega, fun same => ih.2 (by omega)⟩
    · rw [Bool.not_eq_true] at broken
      cases few : pieces breaks coarses with
      | nil =>
        rw [(pieces_nil_iff breaks coarses).mp few] at size ⊢
        rw [List.length_eq_zero_iff.mp size, pieces_last, pieces_last]
        exact ⟨le_refl _, fun _ => rfl⟩
      | cons piece others =>
        have filled : pieces breaks fines ≠ [] := by
          intro none_
          rw [(pieces_nil_iff breaks fines).mp none_] at size
          rw [List.length_eq_zero_iff.mp size.symm] at few
          cases few
        obtain ⟨first, later, many⟩ := List.exists_cons_of_ne_nil filled
        rw [few, many] at ih
        simp only [List.length_cons, List.map_cons, List.cons.injEq] at ih
        rw [pieces_joined breaks other coarses piece others broken few]
        by_cases cut : breaks one fines.head? = true
        · rw [pieces_broken _ _ _ cut, many]
          simp only [List.length_cons]
          exact ⟨by omega, fun same => absurd same (by omega)⟩
        · rw [pieces_joined breaks one fines first later (by simpa using cut) many]
          simp only [List.length_cons, List.map_cons, List.cons.injEq]
          refine ⟨ih.1, fun same => ?_⟩
          have lengths := ih.2 same
          exact ⟨by rw [lengths.1], lengths.2⟩

theorem coarser_reach (count : Nat) :
    ((pieces breaks fine).take count).flatten.length ≤
      ((pieces breaks coarse).take count).flatten.length := by
  induction coarser generalizing count with
  | nil => exact le_refl _
  | cons one other fines coarses kept rest ih =>
    have size := coarser_length breaks fines coarses rest
    cases count with
    | zero => exact le_refl _
    | succ count =>
      have less := ih count
      have more := ih (count + 1)
      by_cases broken : breaks other coarses.head? = true
      · rw [pieces_broken _ _ _ broken, pieces_broken _ _ _ (kept broken)]
        simp only [List.take_succ_cons, List.flatten_cons, List.length_append, List.length_cons,
          List.length_nil]
        omega
      · rw [Bool.not_eq_true] at broken
        cases few : pieces breaks coarses with
        | nil =>
          rw [(pieces_nil_iff breaks coarses).mp few] at size ⊢
          rw [List.length_eq_zero_iff.mp size, pieces_last, pieces_last]
          simp
        | cons piece others =>
          have filled : pieces breaks fines ≠ [] := by
            intro none_
            rw [(pieces_nil_iff breaks fines).mp none_] at size
            rw [List.length_eq_zero_iff.mp size.symm] at few
            cases few
          obtain ⟨first, later, many⟩ := List.exists_cons_of_ne_nil filled
          rw [few, many] at more less
          rw [pieces_joined breaks other coarses piece others broken few]
          simp only [List.take_succ_cons, List.flatten_cons, List.length_append,
            List.length_cons] at more ⊢
          by_cases cut : breaks one fines.head? = true
          · have grows : ((first :: later).take count).flatten.length ≤
                ((first :: later).take (count + 1)).flatten.length := by
              rw [List.take_add_one, List.flatten_append, List.length_append]
              omega
            rw [pieces_broken _ _ _ cut, many]
            simp only [List.take_succ_cons, List.flatten_cons, List.length_append,
              List.length_cons, List.length_nil] at grows ⊢
            omega
          · rw [pieces_joined breaks one fines first later (by simpa using cut) many]
            simp only [List.take_succ_cons, List.flatten_cons, List.length_append, List.length_cons]
            omega

end

theorem flatten_pairs {β : Type} (related : α → β → Prop) (left : List (List α))
    (right : List (List β)) (sizes : right.map List.length = left.map List.length)
    (whole : List.Forall₂ related left.flatten right.flatten) :
    ∀ pair ∈ left.zip right, List.Forall₂ related pair.1 pair.2 := by
  induction left generalizing right with
  | nil => nofun
  | cons piece left ih =>
    cases right with
    | nil => cases sizes
    | cons other right =>
      obtain ⟨size, later⟩ := List.cons.inj sizes
      have front := List.forall₂_take_append _ other right.flatten whole
      have back := List.forall₂_drop_append _ other right.flatten whole
      rw [List.flatten_cons, size, List.take_left] at front
      rw [List.flatten_cons, size, List.drop_left] at back
      intro pair member
      rcases List.mem_cons.mp member with rfl | further
      · exact front
      · exact ih right later back pair further

theorem pieces_front (front : List (List α)) (rest : List α) (filled : ∀ piece ∈ front, piece ≠ [])
    (solid : ∀ piece ∈ front, Solid breaks piece)
    (ended : ∀ lead piece back, front = lead ++ piece :: back → back.flatten ++ rest ≠ [] →
      endsBefore breaks piece (back.flatten ++ rest).head? = true) :
    pieces breaks (front.flatten ++ rest) = front ++ pieces breaks rest := by
  induction front with
  | nil => rfl
  | cons piece front ih =>
    have later := ih (fun other member => filled other (.tail _ member))
      (fun other member => solid other (.tail _ member))
      (fun lead other back shape => ended (piece :: lead) other back (by rw [shape]; rfl))
    rw [List.flatten_cons, List.append_assoc, pieces_cons breaks piece _
      (filled piece (.head _)) (solid piece (.head _)) (ended [] piece front rfl), later]
    rfl

theorem pieces_append (front rest : List α)
    (ended : front ≠ [] → rest ≠ [] → endsBefore breaks front rest.head? = true) :
    pieces breaks (front ++ rest) = pieces breaks front ++ pieces breaks rest := by
  induction front with
  | nil => rfl
  | cons item front ih =>
    cases front with
    | nil =>
      cases rest with
      | nil => exact (List.append_nil _).symm
      | cons next rest =>
        have broken := ended (List.cons_ne_nil _ _) (List.cons_ne_nil _ _)
        rw [pieces_last]
        exact pieces_broken breaks item (next :: rest) broken
    | cons second front =>
      have later := ih fun _ more => ended (List.cons_ne_nil _ _) more
      rw [List.cons_append, pieces_step, pieces_step, later]
      by_cases broken : breaks item (some second) = true
      · rw [List.cons_append, List.head?_cons, List.head?_cons, if_pos broken, if_pos broken]
        rfl
      · have filled : pieces breaks (second :: front) ≠ [] := fun none_ =>
          absurd ((pieces_nil_iff breaks _).mp none_) (List.cons_ne_nil _ _)
        obtain ⟨piece, others, shape⟩ := List.exists_cons_of_ne_nil filled
        rw [List.cons_append, List.head?_cons, List.head?_cons, if_neg broken, if_neg broken, shape]
        rfl

theorem pieces_ends (lead : List (List α)) (piece : List α)
    (back : List (List α)) (shape : pieces breaks items = lead ++ piece :: back)
    (more : back.flatten ≠ []) : endsBefore breaks piece back.flatten.head? = true := by
  cases back with
  | nil => exact absurd rfl more
  | cons next back =>
    have filled := pieces_filled breaks items next (by rw [shape]; simp)
    rw [List.flatten_cons, List.head?_append_of_ne_nil _ filled]
    exact pieces_ended breaks items piece lead back next shape

theorem pieces_taken (count : Nat) :
    pieces breaks ((pieces breaks items).take count).flatten =
      (pieces breaks items).take count := by
  have front := pieces_front breaks ((pieces breaks items).take count) []
    (fun piece member => pieces_filled breaks items piece (List.mem_of_mem_take member))
    (fun piece member => pieces_solid breaks items piece (List.mem_of_mem_take member)) (by
      intro lead piece back shape more
      rw [List.append_nil] at more ⊢
      cases back with
      | nil => exact absurd rfl more
      | cons next back =>
        have filled := pieces_filled breaks items next
          (List.mem_of_mem_take (i := count) (by rw [shape]; simp))
        rw [List.flatten_cons, List.head?_append_of_ne_nil _ filled]
        apply pieces_ended breaks items piece lead (back ++ (pieces breaks items).drop count) next
        conv_lhs => rw [← List.take_append_drop count (pieces breaks items), shape]
        simp)
  rw [List.append_nil] at front
  exact front.trans (List.append_nil _)

theorem pieces_dropped (count : Nat) :
    pieces breaks ((pieces breaks items).drop count).flatten =
      (pieces breaks items).drop count := by
  induction count with
  | zero => rw [List.drop_zero, pieces_flatten]
  | succ count ih =>
    cases rest : (pieces breaks items).drop count with
    | nil =>
      rw [← List.drop_drop, rest]
      rfl
    | cons piece others =>
      rw [rest] at ih
      rw [← List.drop_drop, rest]
      exact pieces_rest breaks _ piece others ih

def slice (items : List α) (first last : Nat) : List α := (items.take last).drop first

theorem pieces_slice (first last : Nat) :
    pieces breaks (slice (pieces breaks items) first last).flatten =
      slice (pieces breaks items) first last := by
  have taken := pieces_taken breaks items last
  have dropped := pieces_dropped breaks ((pieces breaks items).take last).flatten first
  rwa [taken] at dropped

variable (fine : α → Option α → Bool)

theorem solid_agree (items : List α) (solid : Solid breaks items)
    (plain : ∀ item ∈ items, ∀ next, fine item next = true → breaks item next = true) :
    Solid fine items := by
  induction items with
  | nil => trivial
  | cons item items ih =>
    apply solid_cons
    · intro more
      by_contra broken
      rw [Bool.not_eq_false] at broken
      have own := plain item (.head _) _ broken
      rw [solid_inside breaks [] item items solid more] at own
      cases own
    · exact ih (solid_back breaks [item] items solid) fun other member =>
        plain other (.tail _ member)

theorem ends_finer (piece : List α) (next : Option α)
    (finer : ∀ item ∈ piece, breaks item next = true → fine item next = true)
    (ended : endsBefore breaks piece next = true) : endsBefore fine piece next = true := by
  unfold endsBefore at ended ⊢
  cases last : piece.getLast? with
  | none => simp [last] at ended
  | some item =>
    rw [last] at ended
    exact finer item (List.mem_of_getLast? last) ended

theorem pieces_same (items : List α)
    (same : ∀ item ∈ items, ∀ next, fine item next = breaks item next) :
    pieces fine items = pieces breaks items := by
  induction items with
  | nil => rfl
  | cons item items ih =>
    rw [pieces_step, pieces_step, same item (.head _),
      ih fun other member => same other (.tail _ member)]

theorem pieces_agree (items : List α) (count : Nat)
    (finer : ∀ item next, breaks item next = true → fine item next = true)
    (plain : ∀ item ∈ ((pieces breaks items).take count).flatten, ∀ next,
      fine item next = true → breaks item next = true) :
    (pieces fine items).take count = (pieces breaks items).take count := by
  have halves := List.take_append_drop count (pieces breaks items)
  have whole : ((pieces breaks items).take count).flatten ++
      ((pieces breaks items).drop count).flatten = items := by
    rw [← List.flatten_append, halves, pieces_flatten]
  have front := pieces_front fine ((pieces breaks items).take count)
    ((pieces breaks items).drop count).flatten
    (fun piece member => pieces_filled breaks items piece (List.mem_of_mem_take member))
    (fun piece member => solid_agree breaks fine piece
      (pieces_solid breaks items piece (List.mem_of_mem_take member)) fun item inside =>
        plain item (List.mem_flatten.mpr ⟨piece, member, inside⟩)) (by
      intro lead piece back shape more
      rw [← List.flatten_append] at more ⊢
      apply ends_finer breaks fine piece _ fun item _ => finer item _
      apply pieces_ends breaks items lead piece _ _ more
      conv_lhs => rw [← halves, shape, List.append_assoc]
      rfl)
  rw [whole] at front
  rw [front]
  by_cases inside : count ≤ (pieces breaks items).length
  · exact List.take_left' (by rw [List.length_take]; omega)
  · rw [List.drop_of_length_le (by omega)] at front ⊢
    rw [List.flatten_nil, show pieces fine [] = [] from rfl, List.append_nil]
    rw [List.take_take, Nat.min_self]

end DosWeb.Library.Pieces
