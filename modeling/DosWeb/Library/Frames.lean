import Mathlib.Data.List.Basic

/-!
Streams of records whose key and body each end with a stop symbol. Keys hold no stop symbol, bodies
may hold some.
-/

namespace DosWeb.Library.Frames

variable {α : Type} (stop : α)

def frames : List (List α × List α) → List α
  | [] => []
  | (key, body) :: rest => key ++ stop :: (body ++ stop :: frames rest)

theorem cut_unique (left right before after : List α) (one : stop ∉ left) (other : stop ∉ right)
    (same : left ++ stop :: before = right ++ stop :: after) : left = right ∧ before = after := by
  induction left generalizing right with
  | nil =>
    cases right with
    | nil => simpa using same
    | cons head tail =>
      obtain ⟨rfl, -⟩ := List.cons.inj same
      exact absurd (.head _) other
  | cons head tail ih =>
    cases right with
    | nil =>
      obtain ⟨rfl, -⟩ := List.cons.inj same
      exact absurd (.head _) one
    | cons head' tail' =>
      obtain ⟨rfl, rest⟩ := List.cons.inj same
      obtain ⟨rfl, rfl⟩ := ih tail' (fun member => one (.tail _ member))
        (fun member => other (.tail _ member)) rest
      exact ⟨rfl, rfl⟩

theorem frames_merge (key body key' body' : List α) (rest : List (List α × List α)) :
    frames stop ((key, body) :: (key', body') :: rest) =
      frames stop ((key, body ++ stop :: (key' ++ stop :: body')) :: rest) := by
  simp [frames]

theorem frames_ends (records : List (List α × List α)) (filled : records ≠ []) :
    ∃ start, frames stop records = start ++ [stop] := by
  induction records with
  | nil => exact absurd rfl filled
  | cons record rest ih =>
    obtain ⟨key, body⟩ := record
    by_cases last : rest = []
    · subst last
      exact ⟨key ++ stop :: body, by simp [frames]⟩
    · obtain ⟨start, ends⟩ := ih last
      exact ⟨key ++ stop :: (body ++ stop :: start), by simp [frames, ends]⟩

/-- The stream of one record is the stream of nothing else, unless its body has swallowed a second
one. -/
theorem frames_single (key content : List α) (free : stop ∉ key)
    (records : List (List α × List α)) (keys : ∀ record ∈ records, stop ∉ record.1)
    (same : frames stop records = frames stop [(key, content)]) : records = [(key, content)] ∨
      ∃ body further rest, records = (key, body) :: further :: rest ∧
        ∃ tail, content = body ++ stop :: (further.1 ++ stop :: tail) := by
  cases records with
  | nil => simp [frames] at same
  | cons first rest =>
    obtain ⟨own, body⟩ := first
    obtain ⟨rfl, bodies⟩ := cut_unique stop own key _ _ (keys _ (.head _)) free same
    cases rest with
    | nil =>
      left
      have equal : body = content := by simpa [frames] using bodies
      rw [equal]
    | cons second rest =>
      right
      obtain ⟨start, ends⟩ := frames_ends stop (second :: rest) (by simp)
      refine ⟨body, second, rest, rfl, ?_⟩
      obtain ⟨further, body'⟩ := second
      rw [frames] at ends bodies
      have shape : body ++ stop :: start ++ [stop] = content ++ [stop] := by
        rw [List.append_assoc, List.cons_append, ← ends]
        simpa [frames] using bodies
      have whole : body ++ stop :: start = content := List.append_cancel_right shape
      by_cases last : rest = []
      · subst last
        have tail : further ++ stop :: body' = start := by
          apply (List.append_left_inj [stop]).mp
          simpa [frames] using ends
        exact ⟨body', by rw [← whole, ← tail]⟩
      · obtain ⟨inner, closing⟩ := frames_ends stop rest last
        have tail : further ++ stop :: (body' ++ stop :: inner) = start := by
          apply (List.append_left_inj [stop]).mp
          simpa [closing] using ends
        exact ⟨body' ++ stop :: inner, by rw [← whole, ← tail]⟩

end DosWeb.Library.Frames
