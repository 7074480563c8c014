import DosWeb.Library.OrderedSet
import Mathlib.Data.List.MinMax

/-!
Items under keys: of the items under one key the last is kept, in the place of the first.
-/

namespace DosWeb.Library.Keyed

open Library.OrderedSet

section

variable {α κ : Type} [DecidableEq κ] (key : α → κ)

def put (item : α) : List α → List α
  | [] => [item]
  | other :: rest => if key other = key item then item :: rest else other :: put item rest

def collapse (items : List α) : List α := items.foldl (fun kept item => put key item kept) []

theorem mem_put (item other : α) (kept : List α) (inside : other ∈ put key item kept) :
    other = item ∨ other ∈ kept := by
  induction kept with
  | nil => exact Or.inl (List.mem_singleton.mp inside)
  | cons first rest ih =>
    rw [put] at inside
    split at inside
    · rcases List.mem_cons.mp inside with same | later
      · exact Or.inl same
      · exact Or.inr (.tail _ later)
    · rcases List.mem_cons.mp inside with same | later
      · exact Or.inr (List.mem_cons.mpr (Or.inl same))
      · exact (ih later).imp_right (List.mem_cons_of_mem _)

theorem put_keys (item : α) (kept : List α) (wanted : κ) :
    wanted ∈ (put key item kept).map key ↔ wanted = key item ∨ wanted ∈ kept.map key := by
  induction kept with
  | nil => simp [put]
  | cons first rest ih =>
    rw [put]
    split
    · rename_i same
      simp [same]
    · rw [List.map_cons, List.mem_cons, ih, List.map_cons, List.mem_cons]
      exact or_left_comm

theorem put_distinct (item : α) (kept : List α) (distinct : (kept.map key).Nodup) :
    ((put key item kept).map key).Nodup := by
  induction kept with
  | nil => exact List.nodup_singleton _
  | cons first rest ih =>
    rw [List.map_cons, List.nodup_cons] at distinct
    rw [put]
    split
    · rename_i same
      rw [List.map_cons, List.nodup_cons, ← same]
      exact distinct
    · rename_i other
      rw [List.map_cons, List.nodup_cons, put_keys, not_or]
      exact ⟨⟨other, distinct.1⟩, ih distinct.2⟩

theorem mem_fold (items kept : List α) (other : α)
    (inside : other ∈ items.foldl (fun kept item => put key item kept) kept) :
    other ∈ kept ∨ other ∈ items := by
  induction items generalizing kept with
  | nil => exact Or.inl inside
  | cons item items ih =>
    rcases ih _ inside with earlier | later
    · rcases mem_put key item other kept earlier with same | held
      · exact Or.inr (List.mem_cons.mpr (Or.inl same))
      · exact Or.inl held
    · exact Or.inr (.tail _ later)

theorem fold_keys (items kept : List α) (wanted : κ) :
    wanted ∈ (items.foldl (fun kept item => put key item kept) kept).map key ↔
      wanted ∈ kept.map key ∨ wanted ∈ items.map key := by
  induction items generalizing kept with
  | nil => simp
  | cons item items ih =>
    rw [List.foldl_cons, ih, put_keys, List.map_cons, List.mem_cons, or_assoc, or_left_comm]

theorem fold_distinct (items kept : List α) (distinct : (kept.map key).Nodup) :
    ((items.foldl (fun kept item => put key item kept) kept).map key).Nodup := by
  induction items generalizing kept with
  | nil => exact distinct
  | cons item items ih => exact ih _ (put_distinct key item kept distinct)

theorem mem_collapse (items : List α) (item : α) (inside : item ∈ collapse key items) :
    item ∈ items := by
  rcases mem_fold key items [] item inside with none_ | held
  · cases none_
  · exact held

theorem collapse_nodup (items : List α) : (collapse key items).Nodup :=
  (fold_distinct key items [] List.nodup_nil).of_map

theorem mem_collapse_iff (items : List α)
    (apart : ∀ left ∈ items, ∀ right ∈ items, key left = key right → left = right) (item : α) :
    item ∈ collapse key items ↔ item ∈ items := by
  constructor
  · exact mem_collapse key items item
  · intro inside
    have held : key item ∈ (collapse key items).map key :=
      (fold_keys key items [] (key item)).mpr (Or.inr (List.mem_map_of_mem inside))
    obtain ⟨other, kept, same⟩ := List.mem_map.mp held
    rw [← apart other (mem_collapse key items other kept) item inside same]
    exact kept

end

section

variable {α : Type}

theorem length_one_iff (items : List α) (distinct : items.Nodup) :
    items.length = 1 ↔ ∃ item ∈ items, ∀ other ∈ items, other = item := by
  constructor
  · intro one
    obtain ⟨item, rfl⟩ := List.length_eq_one_iff.mp one
    exact ⟨item, List.mem_singleton_self item, fun other inside => List.mem_singleton.mp inside⟩
  · intro single
    obtain ⟨item, inside, only⟩ := single
    have listed : items = [item] := by
      apply List.perm_singleton.mp
      apply (List.perm_ext_iff_of_nodup distinct (List.nodup_singleton item)).mpr
      intro other
      rw [List.mem_singleton]
      exact ⟨only other, fun same => same ▸ inside⟩
    rw [listed]
    rfl

variable [DecidableEq α]

def oneValue (values : List α) : Bool := (onlyElement values).isSome

theorem one_value_iff (values : List α) :
    oneValue values = true ↔ ∃ value ∈ values, ∀ other ∈ values, other = value := by
  rw [oneValue, Option.isSome_iff_exists]
  constructor
  · intro known
    obtain ⟨value, only⟩ := known
    obtain ⟨inside, each⟩ := (onlyElement_iff values value).mp only
    exact ⟨value, inside, each⟩
  · intro known
    obtain ⟨value, inside, each⟩ := known
    exact ⟨value, (onlyElement_iff values value).mpr ⟨inside, each⟩⟩

theorem one_value_agree (values : List α) (filled : values ≠ []) :
    oneValue values = true ↔ ∀ left ∈ values, ∀ right ∈ values, left = right := by
  rw [one_value_iff]
  constructor
  · intro known
    obtain ⟨value, _, each⟩ := known
    intro left leftHeld right rightHeld
    rw [each left leftHeld, each right rightHeld]
  · intro agree
    obtain ⟨value, inside⟩ := List.exists_mem_of_ne_nil values filled
    exact ⟨value, inside, fun other held => agree other held value inside⟩

theorem one_value_congr (left right : List α) (same : ∀ value, value ∈ left ↔ value ∈ right) :
    oneValue left = oneValue right := by
  rw [Bool.eq_iff_iff, one_value_iff, one_value_iff]
  simp only [same]

end

variable {α κ : Type} [LinearOrder κ]

theorem argmin_perm (key : α → κ) (left right : List α) (permuted : left.Perm right) :
    (left.argmin key).map key = (right.argmin key).map key := by
  cases first : left.argmin key with
  | none =>
    rw [List.argmin_eq_none] at first
    rw [first] at permuted
    rw [List.nil_perm.mp permuted]
    rfl
  | some least =>
    cases second : right.argmin key with
    | none =>
      rw [List.argmin_eq_none] at second
      rw [second] at permuted
      rw [List.perm_nil.mp permuted] at first
      cases first
    | some other =>
      have one := permuted.mem_iff.mp (List.argmin_mem first)
      have two := permuted.mem_iff.mpr (List.argmin_mem second)
      exact congrArg some (le_antisymm (List.le_of_mem_argmin two first)
        (List.le_of_mem_argmin one second))

end DosWeb.Library.Keyed
