import Mathlib.Data.List.Dedup
import Mathlib.Data.List.Sort
import Mathlib.Data.String.Basic

/-!
Finite sets held as strictly increasing lists: the normal form that sorting the
set of a sequence gives, and texts collected in that form.
-/

namespace DosWeb.Library.OrderedSet

section

variable {α : Type} [LinearOrder α]

/-- The distinct elements of a sequence, in increasing order. -/
def sortedSet (values : List α) : List α := values.dedup.insertionSort (· ≤ ·)

variable (values : List α)

@[simp] theorem mem_sortedSet (value : α) : value ∈ sortedSet values ↔ value ∈ values := by
  simp [sortedSet]

@[simp] theorem sortedSet_nil : sortedSet ([] : List α) = [] := rfl

@[simp] theorem sortedSet_singleton (value : α) : sortedSet [value] = [value] := by
  simp [sortedSet]

theorem sortedSet_nodup : (sortedSet values).Nodup :=
  (List.perm_insertionSort (· ≤ ·) values.dedup).nodup_iff.mpr (List.nodup_dedup values)

theorem sortedSet_length (distinct : values.Nodup) : (sortedSet values).length = values.length := by
  rw [sortedSet, List.length_insertionSort, distinct.dedup]

theorem sortedSet_increasing : (sortedSet values).Pairwise (· < ·) := by
  have ordered : (sortedSet values).Pairwise (· ≤ ·) :=
    List.pairwise_insertionSort (· ≤ ·) values.dedup
  have distinct : (sortedSet values).Pairwise (· ≠ ·) := sortedSet_nodup values
  exact (ordered.and distinct).imp (fun both => lt_of_le_of_ne both.1 both.2)

theorem increasing_ext (left right : List α) (leftOrdered : left.Pairwise (· < ·))
    (rightOrdered : right.Pairwise (· < ·)) (same : ∀ value, value ∈ left ↔ value ∈ right) :
    left = right := by
  have leftNodup : left.Nodup := leftOrdered.imp (fun below => ne_of_lt below)
  have rightNodup : right.Nodup := rightOrdered.imp (fun below => ne_of_lt below)
  have permutation : left.Perm right := (List.perm_ext_iff_of_nodup leftNodup rightNodup).mpr same
  exact permutation.eq_of_pairwise
    (fun a b _ _ below above => absurd below (not_lt_of_gt above)) leftOrdered rightOrdered

theorem sortedSet_congr (left right : List α) (same : ∀ value, value ∈ left ↔ value ∈ right) :
    sortedSet left = sortedSet right := by
  apply increasing_ext _ _ (sortedSet_increasing left) (sortedSet_increasing right)
  simpa using same

theorem sortedSet_of_increasing (ordered : values.Pairwise (· < ·)) : sortedSet values = values :=
  increasing_ext _ _ (sortedSet_increasing values) ordered (mem_sortedSet values)

theorem sortedSet_eq_self_iff : sortedSet values = values ↔ values.Pairwise (· < ·) :=
  ⟨fun same => same ▸ sortedSet_increasing values, sortedSet_of_increasing values⟩

@[simp] theorem sortedSet_idempotent : sortedSet (sortedSet values) = sortedSet values :=
  sortedSet_of_increasing _ (sortedSet_increasing values)

@[simp] theorem sortedSet_eq_nil : sortedSet values = [] ↔ values = [] := by
  constructor
  · intro empty
    rw [List.eq_nil_iff_forall_not_mem] at empty ⊢
    intro value member
    exact empty value ((mem_sortedSet values value).mpr member)
  · rintro rfl
    exact sortedSet_nil

end

section

variable {α : Type} [DecidableEq α]

/-- The element of a sequence whose set has one element. -/
def onlyElement (values : List α) : Option α :=
  match values.dedup with
  | [value] => some value
  | _ => none

theorem onlyElement_iff (values : List α) (value : α) :
    onlyElement values = some value ↔ value ∈ values ∧ ∀ other ∈ values, other = value := by
  constructor
  · intro found
    have single : values.dedup = [value] := by
      unfold onlyElement at found
      split at found
      · rename_i only same
        rw [same, Option.some_inj.mp found]
      · cases found
    have members : ∀ other, other ∈ values ↔ other = value := by
      intro other
      rw [← List.mem_dedup, single, List.mem_singleton]
    exact ⟨(members value).mpr rfl, fun other member => (members other).mp member⟩
  · intro only
    have single : values.dedup = [value] := by
      apply List.perm_singleton.mp
      rw [List.perm_ext_iff_of_nodup (List.nodup_dedup values) (List.nodup_singleton value)]
      intro other
      rw [List.mem_dedup, List.mem_singleton]
      exact ⟨only.2 other, fun same => same ▸ only.1⟩
    simp only [onlyElement, single]

end

structure TextSet where
  values : List String
  ordered : values.Pairwise (· < ·)
  filled : "" ∉ values
  deriving DecidableEq

namespace TextSet

theorem ext_values (left right : TextSet) (same : left.values = right.values) : left = right := by
  cases left
  cases right
  cases same
  rfl

def empty : TextSet := ⟨[], List.Pairwise.nil, List.not_mem_nil⟩

@[simp] theorem empty_values : empty.values = [] := rfl

def single (text : String) (filled : text ≠ "") : TextSet :=
  ⟨[text], List.pairwise_singleton _ _, by simpa using Ne.symm filled⟩

@[simp] theorem single_values (text : String) (filled : text ≠ "") :
    (single text filled).values = [text] := rfl

/-- Collects a sequence; a sequence with an empty text is refused. -/
def collect (values : List String) : Option TextSet :=
  if filled : "" ∈ values then none
  else some ⟨sortedSet values, sortedSet_increasing values, by simpa using filled⟩

theorem collect_values (values : List String) (texts : TextSet)
    (collected : collect values = some texts) : texts.values = sortedSet values := by
  unfold collect at collected
  split at collected
  · cases collected
  · cases collected
    rfl

theorem collect_filled (values : List String) (texts : TextSet)
    (collected : collect values = some texts) : "" ∉ values := by
  unfold collect at collected
  split at collected
  · cases collected
  · assumption

theorem collect_of_filled (values : List String) (filled : "" ∉ values) :
    ∃ texts, collect values = some texts ∧ texts.values = sortedSet values := by
  refine ⟨⟨sortedSet values, sortedSet_increasing values, by simpa using filled⟩, ?_, rfl⟩
  simp [collect, filled]

theorem mem_collect (values : List String) (texts : TextSet)
    (collected : collect values = some texts) (text : String) :
    text ∈ texts.values ↔ text ∈ values := by
  rw [collect_values values texts collected, mem_sortedSet]

def union (parts : List TextSet) : TextSet where
  values := sortedSet (parts.flatMap values)
  ordered := sortedSet_increasing _
  filled := by
    intro member
    rw [mem_sortedSet, List.mem_flatMap] at member
    rcases member with ⟨part, _, present⟩
    exact part.filled present

@[simp] theorem mem_union (parts : List TextSet) (text : String) :
    text ∈ (union parts).values ↔ ∃ part ∈ parts, text ∈ part.values := by
  simp [union, List.mem_flatMap]

def filter (keep : String → Bool) (texts : TextSet) : TextSet where
  values := texts.values.filter keep
  ordered := texts.ordered.sublist List.filter_sublist
  filled := fun member => texts.filled (List.mem_of_mem_filter member)

@[simp] theorem mem_filter (keep : String → Bool) (texts : TextSet) (text : String) :
    text ∈ (filter keep texts).values ↔ text ∈ texts.values ∧ keep text = true := by
  simp [filter]

end TextSet

end DosWeb.Library.OrderedSet
