import Mathlib.Data.List.Infix

/-!
Markers in texts that are joined at a separator: a marker that does not hold the separator
lies inside of one of the texts.
-/

namespace DosWeb.Library.Markers

variable {α : Type}

theorem infix_around (sep : α) (marker left right : List α) (plain : sep ∉ marker) :
    marker <:+: left ++ sep :: right ↔ marker <:+: left ∨ marker <:+: right := by
  constructor
  · intro inside
    obtain ⟨before, after, shape⟩ := inside
    rcases List.append_eq_append_iff.mp shape with ⟨rest, ends, _⟩ | ⟨rest, ends, tail⟩
    · exact Or.inl ⟨before, rest, ends.symm⟩
    · cases rest with
      | nil => exact Or.inl ⟨before, [], by rw [List.append_nil]; simpa using ends⟩
      | cons first rest =>
        have same := (List.cons.inj tail).1
        have over_ := (List.cons.inj tail).2
        subst same
        rcases List.append_eq_append_iff.mp ends with ⟨cut, _, held⟩ | ⟨cut, _, held⟩
        · rw [held] at plain
          exact absurd (List.mem_append_right _ (.head _)) plain
        · cases cut with
          | nil =>
            rw [List.nil_append] at held
            rw [← held] at plain
            exact absurd (.head _) plain
          | cons _ cut =>
            obtain ⟨_, held⟩ := List.cons.inj held
            exact Or.inr ⟨cut, after, by rw [over_, held]; rfl⟩
  · intro held
    rcases held with inside | inside
    · exact inside.trans (List.prefix_append left (sep :: right)).isInfix
    · exact inside.trans ((List.suffix_cons sep right).trans
        (List.suffix_append left (sep :: right))).isInfix

/-- A marker in joined texts is a marker in one of them, in whatever order they are joined. -/
theorem infix_intercalate_iff (sep : α) (marker : List α) (filled : marker ≠ [])
    (plain : sep ∉ marker) (texts : List (List α)) :
    marker <:+: [sep].intercalate texts ↔ ∃ text ∈ texts, marker <:+: text := by
  induction texts with
  | nil => simp [List.intercalate, filled]
  | cons text texts ih =>
    cases texts with
    | nil => simp [List.intercalate]
    | cons next texts =>
      have joined : [sep].intercalate (text :: next :: texts) =
          text ++ sep :: [sep].intercalate (next :: texts) := by
        simp [List.intercalate, List.intersperse]
      rw [joined, infix_around sep marker _ _ plain, ih]
      exact (List.exists_mem_cons_iff _ _ _).symm

end DosWeb.Library.Markers
