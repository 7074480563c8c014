import DosWeb.Library.Text
import Mathlib.Algebra.GroupWithZero.Nat

/-!
Texts cut at a separator whose kept parts are joined again: cutting the joined text gives the
same parts, and joining never makes a text heavier.
-/

namespace DosWeb.Library.Segments

section

variable {α : Type} (sep : α) (keep : List α → Bool)

def joined (parts : List (List α)) : List α := [sep].intercalate parts

theorem joined_cons (part : List α) (parts : List (List α)) (more : parts ≠ []) :
    joined sep (part :: parts) = part ++ sep :: joined sep parts := by
  simp [joined, List.intercalate_cons_of_ne_nil more]

theorem mem_joined (parts : List (List α)) (c : α) (member : c ∈ joined sep parts) :
    c = sep ∨ ∃ part ∈ parts, c ∈ part := by
  induction parts with
  | nil => cases member
  | cons part parts ih =>
    by_cases last : parts = []
    · subst last
      exact Or.inr ⟨part, .head _, by simpa [joined] using member⟩
    · rw [joined_cons sep part parts last, List.mem_append, List.mem_cons] at member
      rcases member with own | between | later
      · exact Or.inr ⟨part, .head _, own⟩
      · exact Or.inl between
      · rcases ih later with same | ⟨other, inside, held⟩
        · exact Or.inl same
        · exact Or.inr ⟨other, .tail _ inside, held⟩

section

variable (weight : α → Nat)

def weightOf (text : List α) : Nat := (text.map weight).sum

theorem weight_append (left right : List α) :
    weightOf weight (left ++ right) = weightOf weight left + weightOf weight right := by
  simp [weightOf]

theorem joined_filter_weight (parts : List (List α)) :
    weightOf weight (joined sep (parts.filter keep)) ≤ weightOf weight (joined sep parts) := by
  induction parts with
  | nil => exact le_refl _
  | cons part parts ih =>
    by_cases last : parts = []
    · subst last
      cases held : keep part <;> simp [joined, held, weightOf]
    · have split : weightOf weight (joined sep (part :: parts)) =
          weightOf weight part + (weight sep + weightOf weight (joined sep parts)) := by
        rw [joined_cons sep part parts last, weight_append]
        simp [weightOf]
      cases held : keep part with
      | false =>
        rw [List.filter_cons_of_neg (by simp [held]), split]
        omega
      | true =>
        rw [List.filter_cons_of_pos held, split]
        by_cases none : parts.filter keep = []
        · rw [none]
          simp [joined]
        · rw [joined_cons sep part _ none, weight_append]
          have rest : weightOf weight (sep :: joined sep (parts.filter keep)) =
              weight sep + weightOf weight (joined sep (parts.filter keep)) := by
            simp [weightOf]
          omega

end

end

section

variable {α : Type} [DecidableEq α] (sep : α) (keep : List α → Bool)

def kept (text : List α) : List (List α) := (text.splitOn sep).filter keep

theorem splitOn_part (text part : List α) (member : part ∈ text.splitOn sep) :
    sep ∉ part ∧ part ⊆ text := by
  induction text generalizing part with
  | nil => simp_all [List.splitOn_nil]
  | cons c rest ih =>
    rw [List.splitOn_cons_eq_if_modifyHead] at member
    split at member
    · rcases List.mem_cons.mp member with same | later
      · simp [same]
      · exact ⟨(ih part later).1, List.Subset.trans (ih part later).2 (List.subset_cons_self _ _)⟩
    · rename_i other
      cases cut : rest.splitOn sep with
      | nil => simp [cut] at member
      | cons head tail =>
        rw [cut, List.modifyHead_cons] at member
        rcases List.mem_cons.mp member with same | later
        · have own := ih head (cut ▸ (.head _))
          subst same
          refine ⟨?_, List.cons_subset_cons _ own.2⟩
          simpa [own.1] using Ne.symm (by simpa using other)
        · have own := ih part (cut ▸ .tail _ later)
          exact ⟨own.1, List.Subset.trans own.2 (List.subset_cons_self _ _)⟩

theorem kept_part (text part : List α) (member : part ∈ kept sep keep text) :
    keep part = true ∧ sep ∉ part ∧ part ⊆ text := by
  have both := List.mem_filter.mp member
  exact ⟨both.2, splitOn_part sep text part both.1⟩

theorem kept_joined (parts : List (List α)) (some : parts ≠ [])
    (whole : ∀ part ∈ parts, keep part = true ∧ sep ∉ part) :
    kept sep keep (joined sep parts) = parts := by
  have cut : (joined sep parts).splitOn sep = parts :=
    List.splitOn_intercalate sep (fun part member => (whole part member).2) some
  rw [kept, cut, List.filter_eq_self]
  exact fun part member => (whole part member).1

theorem joined_kept_weight (weight : α → Nat) (text : List α) :
    weightOf weight (joined sep (kept sep keep text)) ≤ weightOf weight text := by
  calc
    _ ≤ weightOf weight (joined sep (text.splitOn sep)) := joined_filter_weight sep keep weight _
    _ = weightOf weight text := by rw [joined, List.intercalate_splitOn]

end

theorem text_splitOn (sep : Char) (text : List Char) :
    Text.splitOn sep text = text.splitOn sep := by
  induction text with
  | nil => simp [Text.splitOn, List.splitOn_nil]
  | cons c rest ih =>
    rw [Text.splitOn, List.splitOn_cons_eq_if_modifyHead, ih]
    by_cases same : c = sep
    · simp [same]
    · rw [if_neg same, if_neg (by simpa using same)]
      cases cut : rest.splitOn sep with
      | nil => exact absurd cut (List.splitOn_ne_nil sep rest)
      | cons head tail => simp

theorem utf8_weight (text : List Char) :
    (Text.utf8 text).length = weightOf (fun c => (String.utf8EncodeChar c).length) text := by
  simp [Text.utf8, weightOf, List.length_flatMap]

end DosWeb.Library.Segments
