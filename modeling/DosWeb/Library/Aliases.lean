import DosWeb.Library.Grouping
import Mathlib.Data.List.Range

/-!
Items under numbered names: each name stands for one item, and each item has one name.
-/

namespace DosWeb.Library.Aliases

open Library.Grouping

variable (lead ending : String)

def ordinal (position : Nat) : String := lead ++ toString position ++ ending

theorem ordinal_inj (left right : Nat)
    (same : ordinal lead ending left = ordinal lead ending right) : left = right := by
  have texts := congrArg String.toList same
  simp only [ordinal, String.toList_append, List.append_assoc, List.append_cancel_left_eq,
    List.append_cancel_right_eq, Nat.toString_eq_repr, Nat.toList_repr] at texts
  calc
    left = Nat.ofDigitChars 10 (Nat.toDigits 10 left) 0 := Nat.ofDigitChars_ten_toDigits.symm
    _ = Nat.ofDigitChars 10 (Nat.toDigits 10 right) 0 := by rw [texts]
    _ = right := Nat.ofDigitChars_ten_toDigits

def aliases (items : List String) : List (String × String) :=
  (items.zipIdx 1).map fun item => (item.1, ordinal lead ending item.2)

def originals (items : List String) : List (String × String) :=
  (aliases lead ending items).map Prod.swap

variable (items : List String)

theorem aliases_items : (aliases lead ending items).map Prod.fst = items := by
  rw [aliases, List.map_map]
  exact List.zipIdx_map_fst 1 items

theorem aliases_names : (aliases lead ending items).map Prod.snd =
      (List.range' 1 items.length).map (ordinal lead ending) := by
  rw [← List.zipIdx_map_snd 1 items, aliases, List.map_map, List.map_map]
  rfl

theorem names_distinct : ((aliases lead ending items).map Prod.snd).Nodup := by
  rw [aliases_names]
  exact List.Nodup.map (fun left right same => ordinal_inj lead ending left right same)
    (List.nodup_range' 1)

theorem originals_names :
    (originals lead ending items).map Prod.fst = (aliases lead ending items).map Prod.snd := by
  rw [originals, List.map_map]
  rfl

theorem originals_items : (originals lead ending items).map Prod.snd = items := by
  calc
    (originals lead ending items).map Prod.snd = (aliases lead ending items).map Prod.fst := by
      rw [originals, List.map_map]
      rfl
    _ = items := aliases_items lead ending items

theorem lookup_swapped (distinct : items.Nodup) (name item : String) :
    (originals lead ending items).lookup name = some item ↔
      (aliases lead ending items).lookup item = some name := by
  have keys : ((originals lead ending items).map Prod.fst).Nodup := by
    rw [originals_names]
    exact names_distinct lead ending items
  have own : ((aliases lead ending items).map Prod.fst).Nodup := by
    rw [aliases_items]
    exact distinct
  rw [lookup_iff _ keys, lookup_iff _ own, originals, List.mem_map]
  constructor
  · rintro ⟨⟨_, _⟩, member, same⟩
    cases same
    exact member
  · intro member
    exact ⟨(item, name), member, rfl⟩

theorem item_named (distinct : items.Nodup) (item : String)
    (member : item ∈ items) : ∃ name, (aliases lead ending items).lookup item = some name := by
  rw [← aliases_items lead ending items] at member distinct
  obtain ⟨⟨_, name⟩, inside, rfl⟩ := List.mem_map.mp member
  exact ⟨name, (lookup_iff _ distinct _ _).mpr inside⟩

theorem named_item (distinct : items.Nodup) (item name : String)
    (found : (aliases lead ending items).lookup item = some name) : item ∈ items := by
  rw [← aliases_items lead ending items] at distinct
  rw [← aliases_items lead ending items]
  exact List.mem_map.mpr ⟨_, (lookup_iff _ distinct _ _).mp found, rfl⟩

end DosWeb.Library.Aliases
