import DosWeb.Library.JsonValue
import DosWeb.Library.OrderedSet

/-!
Records: objects that a program reads member by member, and members that hold texts or the names
of an enumeration.
-/

namespace DosWeb.Library.JsonRecord

open Library.JsonValue Library.OrderedSet

variable {F : Type}

def present (record : Members F) (key : String) : Option (Json F) := field key (.obj record)

def get (record : Members F) (key : String) : Json F := (present record key).getD .null

def filledText : Json F → Option String
  | .str text => if text = "" then none else some text
  | _ => none

def isText (text : String) : Json F → Bool
  | .str value => value = text
  | _ => false

def named {α : Type} (members : List α) (text : α → String) : Json F → Option α
  | .str value => members.find? fun member => text member = value
  | _ => none

def fieldSet (record : Members F) : List String := sortedSet (record.map Prod.fst)

def objectOf : Json F → Option (Members F)
  | .obj members => some members
  | _ => none

def arrayOf : Json F → Option (List (Json F))
  | .arr items => some items
  | _ => none

def plainText : Json F → Option String
  | .str text => some text
  | _ => none

def nullableText : Json F → Option (Option String)
  | .null => some none
  | .str text => some (some text)
  | _ => none

def intOf : Json F → Option Int
  | .int value => some value
  | _ => none

def boolOf : Json F → Option Bool
  | .bool value => some value
  | _ => none

theorem filled_text (value : Json F) (text : String) (filled : filledText value = some text) :
    value = .str text ∧ text ≠ "" := by
  cases value with
  | str held =>
    simp only [filledText] at filled
    split at filled
    · cases filled
    · rename_i nonempty
      cases filled
      exact ⟨rfl, nonempty⟩
  | _ => cases filled

theorem plain_text (value : Json F) (text : String) :
    plainText value = some text ↔ value = .str text := by
  cases value <;> simp [plainText]

theorem object_of (value : Json F) (members : Members F) :
    objectOf value = some members ↔ value = .obj members := by
  cases value <;> simp [objectOf]

theorem is_text (text : String) (value : Json F) : isText text value = true ↔ value = .str text := by
  cases value <;> simp [isText]

theorem named_shape {α : Type} (members : List α) (text : α → String) (value : Json F) (member : α)
    (found : named members text value = some member) :
    value = .str (text member) ∧ member ∈ members := by
  cases value with
  | str held =>
    have same : text member = held := by simpa using List.find?_some found
    exact ⟨by rw [same], List.mem_of_find?_eq_some found⟩
  | _ => cases found

theorem named_text {α : Type} (members : List α) (text : α → String) (member : α)
    (inside : member ∈ members) (apart : ∀ other ∈ members, text other = text member → other = member) :
    named members text (.str (text member) : Json F) = some member := by
  have found : (named members text (.str (text member) : Json F)).isSome = true :=
    List.find?_isSome.mpr ⟨member, inside, by simp⟩
  obtain ⟨other, own⟩ := Option.isSome_iff_exists.mp found
  have same : text other = text member := by simpa using List.find?_some own
  rw [own, apart other (List.mem_of_find?_eq_some own) same]

theorem guard_bind {α : Type} {condition : Prop} [Decidable condition] {next : Unit → Option α}
    {result : α} : (guard condition >>= next) = some result ↔ condition ∧ next () = some result := by
  by_cases held : condition <;> simp [guard, held, failure, bind]

theorem some_bind {α β : Type} {first : Option α} {next : α → Option β} {result : β} :
    (first >>= next) = some result ↔ ∃ value, first = some value ∧ next value = some result :=
  Option.bind_eq_some_iff

section

/-- A value in normal form: what a reader makes of a text. -/
def Normal (value : Json F) : Prop := DistinctKeys value ∧ JsonValue.normalize value = value

theorem normal_items (items : List (Json F)) (normal : Normal (.arr items)) :
    ∀ item ∈ items, Normal item := by
  intro item member
  have fixed := Json.arr.inj normal.2
  rw [normalizeItems_eq_map] at fixed
  refine ⟨(distinctItems_iff items).mp normal.1 item member, ?_⟩
  have same : items.map JsonValue.normalize = items.map id := by rw [fixed, List.map_id]
  exact List.map_inj_left.mp same item member

variable (members : Members F)

theorem normal_member (normal : Normal (.obj members)) : ∀ member ∈ members, Normal member.2 := by
  intro member inside
  have fixed := Json.obj.inj normal.2
  refine ⟨(distinctMembers_iff members).mp normal.1.2 member inside, ?_⟩
  have perm := normalizeMembers_perm members
  rw [fixed] at perm
  have again : (member.1, JsonValue.normalize member.2) ∈ members :=
    perm.mem_iff.mpr (List.mem_map.mpr ⟨member, inside, rfl⟩)
  exact congrArg Prod.snd (List.inj_on_of_nodup_map normal.1.1 again inside rfl)

theorem normal_increasing (normal : Normal (.obj members)) :
    (members.map Prod.fst).Pairwise (· < ·) := by
  have fixed := Json.obj.inj normal.2
  have sorted := normalizeMembers_sorted members normal.1.1
  rw [fixed] at sorted
  exact List.pairwise_map.mpr sorted

theorem keys_of_fields (normal : Normal (.obj members))
    (fields : List String) (same : fieldSet members = fields) : members.map Prod.fst = fields := by
  rw [← same, fieldSet]
  exact (sortedSet_of_increasing _ (normal_increasing members normal)).symm

theorem normal_of_increasing (increasing : (members.map Prod.fst).Pairwise (· < ·))
    (each : ∀ member ∈ members, Normal member.2) : Normal (.obj members) := by
  refine ⟨⟨increasing.imp ne_of_lt, (distinctMembers_iff members).mpr fun member inside =>
    (each member inside).1⟩, congrArg Json.obj ?_⟩
  exact normalizeMembers_fixed members (List.pairwise_map.mp increasing) fun member inside =>
    (each member inside).2

theorem normal_filter (normal : Normal (.obj members))
    (kept : String × Json F → Bool) : Normal (.obj (members.filter kept)) := by
  apply normal_of_increasing
  · exact (normal_increasing members normal).sublist (List.Sublist.map _ List.filter_sublist)
  · intro member inside
    exact normal_member members normal member (List.mem_of_mem_filter inside)

end

variable (members : Members F)

theorem get_member (distinct : (members.map Prod.fst).Nodup)
    (member : String × Json F) (inside : member ∈ members) :
    present members member.1 = some member.2 := by
  have found : (members.find? fun other => other.1 == member.1).isSome = true :=
    List.find?_isSome.mpr ⟨member, inside, by simp⟩
  obtain ⟨other, own⟩ := Option.isSome_iff_exists.mp found
  have same : other.1 = member.1 := by simpa using List.find?_some own
  have equal := List.inj_on_of_nodup_map distinct (List.mem_of_find?_eq_some own) inside same
  rw [present, field, own, equal]
  rfl

theorem present_none (key : String) (absent : key ∉ members.map Prod.fst) :
    present members key = none := by
  have none : (members.find? fun other => other.1 == key) = none := by
    apply List.find?_eq_none.mpr
    intro other inside same
    exact absent (List.mem_map.mpr ⟨other, inside, by simpa using same⟩)
  rw [present, field, none]
  rfl

theorem get_distinct (distinct : DistinctKeys (.obj members)) (key : String) :
    DistinctKeys (get members key) := by
  by_cases inside : key ∈ members.map Prod.fst
  · obtain ⟨member, held, same⟩ := List.mem_map.mp inside
    rw [← same, get, get_member members distinct.1 member held]
    exact (distinctMembers_iff members).mp distinct.2 member held
  · rw [get, present_none members key inside]
    trivial

theorem present_normalize (distinct : (members.map Prod.fst).Nodup) (key : String) :
    present (normalizeMembers members) key = (present members key).map JsonValue.normalize := by
  have perm := normalizeMembers_perm members
  have ordered : ((normalizeMembers members).map Prod.fst).Nodup :=
    (normalizeMembers_keys_perm members).nodup_iff.mpr distinct
  by_cases inside : key ∈ members.map Prod.fst
  · obtain ⟨member, held, same⟩ := List.mem_map.mp inside
    have own : (member.1, JsonValue.normalize member.2) ∈ normalizeMembers members :=
      perm.mem_iff.mpr (List.mem_map.mpr ⟨member, held, rfl⟩)
    rw [← same, get_member members distinct member held, get_member _ ordered _ own]
    rfl
  · have outside : key ∉ (normalizeMembers members).map Prod.fst := by
      rwa [(normalizeMembers_keys_perm members).mem_iff]
    rw [present_none members key inside, present_none _ key outside]
    rfl

theorem get_normalize (distinct : (members.map Prod.fst).Nodup) (key : String) :
    get (normalizeMembers members) key = JsonValue.normalize (get members key) := by
  rw [get, get, present_normalize members distinct key]
  cases present members key <;> rfl

theorem normalize_filter (distinct : (members.map Prod.fst).Nodup) (kept : String → Bool) :
    normalizeMembers (members.filter fun member => kept member.1) =
      (normalizeMembers members).filter fun member => kept member.1 := by
  have fewer : ((members.filter fun member => kept member.1).map Prod.fst).Nodup :=
    distinct.sublist (List.Sublist.map _ List.filter_sublist)
  have apart : ∀ left right : String × Json F,
      left ∈ normalizeMembers (members.filter fun member => kept member.1) →
        right ∈ (normalizeMembers members).filter (fun member => kept member.1) →
          left.1 < right.1 → right.1 < left.1 → left = right :=
    fun _ _ _ _ below above => absurd (lt_trans below above) (lt_irrefl _)
  apply List.Perm.eq_of_pairwise apart
  · exact normalizeMembers_sorted _ fewer
  · exact (normalizeMembers_sorted members distinct).sublist List.filter_sublist
  · apply (normalizeMembers_perm _).trans
    have perm := (normalizeMembers_perm members).filter fun member => kept member.1
    rw [List.filter_map] at perm
    exact perm.symm

theorem get_filter (kept : String → Bool) (key : String) (keeps : kept key = true) :
    get (members.filter fun member => kept member.1) key = get members key := by
  have found : (members.filter fun member => kept member.1).find? (fun member => member.1 == key) =
      members.find? fun member => member.1 == key := by
    rw [List.find?_filter]
    induction members with
    | nil => rfl
    | cons member rest hypothesis =>
      by_cases same : member.1 = key
      · simp [same, keeps]
      · simpa [same] using hypothesis
  rw [get, get, present, present, field, field, found]

theorem members_of_keys (distinct : (members.map Prod.fst).Nodup) :
    members = (members.map Prod.fst).map fun key => (key, get members key) := by
  rw [List.map_map]
  conv_lhs => rw [← List.map_id members]
  apply List.map_congr_left
  intro member inside
  rw [Function.comp_apply, get, get_member members distinct member inside]
  rfl

/-- Records in normal form are equal when they have the same keys and the same members there. -/
theorem normal_ext (left right : Members F) (leftNormal : Normal (.obj left))
    (rightNormal : Normal (.obj right)) (keys : fieldSet left = fieldSet right)
    (same : ∀ key, get left key = get right key) : left = right := by
  have leftKeys := keys_of_fields left leftNormal _ rfl
  have rightKeys := keys_of_fields right rightNormal _ rfl
  rw [members_of_keys left leftNormal.1.1, members_of_keys right rightNormal.1.1, leftKeys,
    rightKeys, keys]
  exact List.map_congr_left fun key _ => by rw [same key]

end DosWeb.Library.JsonRecord
