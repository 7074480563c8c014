import DosWeb.Library.Mapping

/-!
Records with a known set of fields.
-/

namespace DosWeb.Library.JsonRecord

open Library.JsonValue Library.OrderedSet

variable {F : Type}

variable (record : Members F)

theorem field_set_iff (names : List String) :
    fieldSet record = sortedSet names ↔ ∀ key, key ∈ record.map Prod.fst ↔ key ∈ names := by
  constructor
  · intro same key
    rw [← mem_sortedSet (record.map Prod.fst), ← mem_sortedSet names, ← same]
    rfl
  · intro same
    exact sortedSet_congr _ _ same

theorem get_of_present (key : String) (value : Json F)
    (found : present record key = some value) : get record key = value := by
  rw [get, found]
  rfl

theorem present_of_field (key : String)
    (inside : key ∈ record.map Prod.fst) : present record key = some (get record key) := by
  obtain ⟨value, found⟩ := Option.ne_none_iff_exists'.mp ((mem_keys_iff record key).mp inside)
  rw [found, get_of_present record key value found]

theorem normalize_eq_fields (left right : Members F) (names : List String)
    (leftDistinct : (left.map Prod.fst).Nodup) (rightDistinct : (right.map Prod.fst).Nodup)
    (leftFields : fieldSet left = sortedSet names) (rightFields : fieldSet right = sortedSet names) :
    normalizeMembers left = normalizeMembers right ↔
      ∀ name ∈ names, JsonValue.normalize (get left name) = JsonValue.normalize (get right name) := by
  rw [normalize_eq_iff left right leftDistinct rightDistinct]
  have leftKeys := (field_set_iff left names).mp leftFields
  have rightKeys := (field_set_iff right names).mp rightFields
  constructor
  · intro same name inside
    have own := same name
    rw [present_of_field left name ((leftKeys name).mpr inside),
      present_of_field right name ((rightKeys name).mpr inside)] at own
    exact Option.some.inj own
  · intro same key
    by_cases inside : key ∈ names
    · rw [present_of_field left key ((leftKeys key).mpr inside),
        present_of_field right key ((rightKeys key).mpr inside), Option.map_some, Option.map_some,
        same key inside]
    · rw [present_none left key fun held => inside ((leftKeys key).mp held),
        present_none right key fun held => inside ((rightKeys key).mp held)]

theorem fields_of_normalize (left right : Members F)
    (same : normalizeMembers left = normalizeMembers right) : fieldSet left = fieldSet right := by
  apply sortedSet_congr
  intro key
  rw [← (normalizeMembers_keys_perm left).mem_iff, same, (normalizeMembers_keys_perm right).mem_iff]

theorem normalize_obj (left right : Members F) :
    JsonValue.normalize (.obj left) = JsonValue.normalize (.obj right) ↔
      normalizeMembers left = normalizeMembers right := by
  rw [JsonValue.normalize, JsonValue.normalize, Json.obj.injEq]

theorem normalize_arr (left right : List (Json F)) :
    JsonValue.normalize (.arr left) = JsonValue.normalize (.arr right) ↔
      left.map JsonValue.normalize = right.map JsonValue.normalize := by
  rw [JsonValue.normalize, JsonValue.normalize, Json.arr.injEq, normalizeItems_eq_map,
    normalizeItems_eq_map]

theorem normalize_str (value : Json F) (text : String) :
    JsonValue.normalize value = .str text ↔ value = .str text := by
  cases value <;> simp [JsonValue.normalize]

theorem list_of_normalize (value : Json F) (items : List (Json F))
    (same : JsonValue.normalize value = .arr items) : ∃ own, value = .arr own := by
  cases value with
  | arr own => exact ⟨own, rfl⟩
  | _ => simp [JsonValue.normalize] at same

end DosWeb.Library.JsonRecord
