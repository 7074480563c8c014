import Mathlib.Data.List.Sort
import Mathlib.Data.String.Basic

/-!
JSON values over an arbitrary type of floating-point numbers, and the normal form
in which the members of every object stand in increasing key order.
-/

namespace DosWeb.Library.JsonValue

inductive Json (F : Type) where
  | null
  | bool (value : Bool)
  | int (value : Int)
  | float (value : F)
  | str (text : String)
  | arr (items : List (Json F))
  | obj (members : List (String × Json F))

/-- The members of an object in their order. -/
abbrev Members (F : Type) := List (String × Json F)

variable {F : Type}

theorem Json.induct {motive : Json F → Prop} (null : motive .null)
    (bool : ∀ value, motive (.bool value)) (int : ∀ value, motive (.int value))
    (float : ∀ value, motive (.float value)) (str : ∀ text, motive (.str text))
    (arr : ∀ items, (∀ item ∈ items, motive item) → motive (.arr items))
    (obj : ∀ members, (∀ member ∈ members, motive member.2) → motive (.obj members))
    (json : Json F) : motive json := @Json.rec F motive (fun items => ∀ item ∈ items, motive item)
    (fun members => ∀ member ∈ members, motive member.2) (fun member => motive member.2)
    null bool int float str arr obj
    nofun
    (fun _ _ head tail _ present => by
      rcases List.mem_cons.mp present with rfl | later
      · exact head
      · exact tail _ later)
    nofun
    (fun _ _ head tail _ present => by
      rcases List.mem_cons.mp present with rfl | later
      · exact head
      · exact tail _ later)
    (fun _ _ value => value) json

section

variable [DecidableEq F]

mutual

def same : Json F → Json F → Bool
  | .null, .null => true
  | .bool left, .bool right => left == right
  | .int left, .int right => left == right
  | .float left, .float right => left == right
  | .str left, .str right => left == right
  | .arr left, .arr right => sameItems left right
  | .obj left, .obj right => sameMembers left right
  | _, _ => false

def sameItems : List (Json F) → List (Json F) → Bool
  | [], [] => true
  | left :: lefts, right :: rights => same left right && sameItems lefts rights
  | _, _ => false

def sameMembers : Members F → Members F → Bool
  | [], [] => true
  | (leftKey, left) :: lefts, (rightKey, right) :: rights =>
    leftKey == rightKey && same left right && sameMembers lefts rights
  | _, _ => false

end

theorem same_items_iff (left right : List (Json F))
    (agrees : ∀ item ∈ left, ∀ other, same item other = true ↔ item = other) :
    sameItems left right = true ↔ left = right := by
  induction left generalizing right with
  | nil => cases right <;> simp [sameItems]
  | cons head tail ih =>
    cases right with
    | nil => simp [sameItems]
    | cons other others =>
      have first := agrees head (.head _) other
      have rest := ih others (fun item member => agrees item (.tail _ member))
      simp [sameItems, first, rest]

theorem same_members_iff (left right : Members F)
    (agrees : ∀ member ∈ left, ∀ other, same member.2 other = true ↔ member.2 = other) :
    sameMembers left right = true ↔ left = right := by
  induction left generalizing right with
  | nil => cases right <;> simp [sameMembers]
  | cons head tail ih =>
    cases right with
    | nil => simp [sameMembers]
    | cons other others =>
      have first := agrees head (.head _) other.2
      have rest := ih others (fun item member => agrees item (.tail _ member))
      rcases head with ⟨key, value⟩
      rcases other with ⟨otherKey, otherValue⟩
      simp only at first
      simp [sameMembers, first, rest]

theorem same_iff (left right : Json F) : same left right = true ↔ left = right := by
  induction left using Json.induct generalizing right with
  | arr items ih =>
    cases right <;> simp [same, same_items_iff _ _ (fun item member other => ih item member other)]
  | obj members ih =>
    cases right <;>
      simp [same, same_members_iff _ _ (fun member present other => ih member present other)]
  | _ => cases right <;> simp [same]

instance : DecidableEq (Json F) := fun left right => decidable_of_iff _ (same_iff left right)

end

/-- Puts a member before the first member with a greater or equal key. -/
def insertMember (key : String) (value : Json F) : Members F → Members F
  | [] => [(key, value)]
  | member :: members =>
    if key ≤ member.1 then (key, value) :: member :: members
    else member :: insertMember key value members

mutual

/-- The value with the members of every object in increasing key order. -/
def normalize : Json F → Json F
  | .null => .null
  | .bool value => .bool value
  | .int value => .int value
  | .float value => .float value
  | .str text => .str text
  | .arr items => .arr (normalizeItems items)
  | .obj members => .obj (normalizeMembers members)

def normalizeItems : List (Json F) → List (Json F)
  | [] => []
  | item :: items => normalize item :: normalizeItems items

def normalizeMembers : Members F → Members F
  | [] => []
  | (key, value) :: members => insertMember key (normalize value) (normalizeMembers members)

end

theorem normalizeItems_eq_map (items : List (Json F)) :
    normalizeItems items = items.map normalize := by
  induction items with
  | nil => rfl
  | cons item items ih => simp [normalizeItems, ih]

theorem insertMember_perm (key : String) (value : Json F) (members : Members F) :
    (insertMember key value members).Perm ((key, value) :: members) := by
  induction members with
  | nil => rfl
  | cons member members ih =>
    unfold insertMember
    split
    · rfl
    · exact (ih.cons member).trans (List.Perm.swap _ _ _)

variable (members : Members F)

theorem normalizeMembers_perm : (normalizeMembers members).Perm
      (members.map fun member => (member.1, normalize member.2)) := by
  induction members with
  | nil => rfl
  | cons member members ih =>
    exact (insertMember_perm member.1 (normalize member.2) _).trans (ih.cons _)

theorem normalizeMembers_keys_perm :
    ((normalizeMembers members).map Prod.fst).Perm (members.map Prod.fst) := by
  have keys := (normalizeMembers_perm members).map Prod.fst
  simpa only [List.map_map, Function.comp_def] using keys

theorem insertMember_sorted (key : String) (value : Json F) (members : Members F)
    (sorted : members.Pairwise (fun left right => left.1 < right.1))
    (fresh : ∀ member ∈ members, member.1 ≠ key) :
    (insertMember key value members).Pairwise (fun left right => left.1 < right.1) := by
  induction members with
  | nil => simp [insertMember]
  | cons member members ih =>
    have head := List.pairwise_cons.mp sorted
    unfold insertMember
    split
    · rename_i below
      have strict : key < member.1 :=
        lt_of_le_of_ne below (fun same => fresh member (.head _) same.symm)
      refine List.pairwise_cons.mpr ⟨?_, sorted⟩
      intro other present
      rcases List.mem_cons.mp present with rfl | later
      · exact strict
      · exact lt_trans strict (head.1 other later)
    · rename_i above
      have rest := ih head.2 (fun other later => fresh other (.tail _ later))
      refine List.pairwise_cons.mpr ⟨?_, rest⟩
      intro other present
      rcases List.mem_cons.mp ((insertMember_perm key value members).mem_iff.mp present) with
        rfl | later
      · exact not_le.mp above
      · exact head.1 other later

theorem normalizeMembers_sorted (distinct : (members.map Prod.fst).Nodup) :
    (normalizeMembers members).Pairwise (fun left right => left.1 < right.1) := by
  induction members with
  | nil => exact List.Pairwise.nil
  | cons member members ih =>
    have split := List.nodup_cons.mp distinct
    refine insertMember_sorted _ _ _ (ih split.2) ?_
    intro other present same
    apply split.1
    rw [← (normalizeMembers_keys_perm members).mem_iff]
    exact List.mem_map.mpr ⟨other, present, same⟩

mutual

/-- Every object of the value has distinct keys: the value a dictionary tree holds. -/
def DistinctKeys : Json F → Prop
  | .arr items => DistinctItems items
  | .obj members => (members.map Prod.fst).Nodup ∧ DistinctMembers members
  | _ => True

def DistinctItems : List (Json F) → Prop
  | [] => True
  | item :: items => DistinctKeys item ∧ DistinctItems items

def DistinctMembers : Members F → Prop
  | [] => True
  | (_, value) :: members => DistinctKeys value ∧ DistinctMembers members

end

theorem distinctItems_iff (items : List (Json F)) :
    DistinctItems items ↔ ∀ item ∈ items, DistinctKeys item := by
  induction items with
  | nil => simp [DistinctItems]
  | cons item items ih => simp [DistinctItems, ih]

theorem texts_distinct (texts : List String) : DistinctKeys (.arr (texts.map .str) : Json F) := by
  apply (distinctItems_iff _).mpr
  intro item inside
  obtain ⟨text, -, rfl⟩ := List.mem_map.mp inside
  trivial

theorem distinctMembers_iff :
    DistinctMembers members ↔ ∀ member ∈ members, DistinctKeys member.2 := by
  induction members with
  | nil => simp [DistinctMembers]
  | cons member members ih => simp [DistinctMembers, ih]

theorem distinctKeys_normalize (json : Json F) (distinct : DistinctKeys json) :
    DistinctKeys (normalize json) := by
  induction json using Json.induct with
  | arr items ih =>
    simp only [DistinctKeys, distinctItems_iff] at distinct
    simp only [normalize, DistinctKeys, distinctItems_iff, normalizeItems_eq_map, List.mem_map]
    rintro _ ⟨item, member, rfl⟩
    exact ih item member (distinct item member)
  | obj members ih =>
    simp only [DistinctKeys, distinctMembers_iff] at distinct
    simp only [normalize, DistinctKeys, distinctMembers_iff]
    refine ⟨(normalizeMembers_keys_perm members).nodup_iff.mpr distinct.1, ?_⟩
    intro member present
    rcases List.mem_map.mp ((normalizeMembers_perm members).mem_iff.mp present) with
      ⟨original, originalPresent, rfl⟩
    exact ih original originalPresent (distinct.2 original originalPresent)
  | _ => simp [normalize, DistinctKeys]

theorem normalizeMembers_fixed (sorted : members.Pairwise (fun left right => left.1 < right.1))
    (fixed : ∀ member ∈ members, normalize member.2 = member.2) :
    normalizeMembers members = members := by
  induction members with
  | nil => rfl
  | cons member members ih =>
    have head := List.pairwise_cons.mp sorted
    rw [normalizeMembers, fixed member (.head _),
      ih head.2 (fun other present => fixed other (.tail _ present))]
    cases members with
    | nil => rfl
    | cons next members => simp [insertMember, le_of_lt (head.1 next (.head _))]

theorem normalize_text (value : Json F) (text : String) (same : normalize value = .str text) :
    value = .str text := by
  cases value <;> simp_all [normalize]

theorem normalize_idempotent (json : Json F) (distinct : DistinctKeys json) :
    normalize (normalize json) = normalize json := by
  induction json using Json.induct with
  | arr items ih =>
    simp only [DistinctKeys, distinctItems_iff] at distinct
    simp only [normalize, normalizeItems_eq_map, List.map_map, Json.arr.injEq]
    exact List.map_congr_left (fun item member => ih item member (distinct item member))
  | obj members ih =>
    simp only [DistinctKeys, distinctMembers_iff] at distinct
    simp only [normalize, Json.obj.injEq]
    refine normalizeMembers_fixed _ (normalizeMembers_sorted members distinct.1) ?_
    intro member present
    rcases List.mem_map.mp ((normalizeMembers_perm members).mem_iff.mp present) with
      ⟨original, originalPresent, rfl⟩
    exact ih original originalPresent (distinct.2 original originalPresent)
  | _ => simp [normalize]

def isNumber : Json F → Bool
  | .bool _ => true
  | .int _ => true
  | .float _ => true
  | _ => false

def field (key : String) : Json F → Option (Json F)
  | .obj members => (members.find? fun member => member.1 == key).map Prod.snd
  | _ => none

variable (sameNumber : Json F → Json F → Bool)

mutual

/-- Equality as values of the language: the members of an object in any order, and numbers by
their value. -/
def alike : Json F → Json F → Bool
  | .null, right => match right with
      | .null => true
      | _ => false
  | .str left, right => match right with
      | .str text => left == text
      | _ => false
  | .arr left, right => match right with
      | .arr items => alikeItems left items
      | _ => false
  | .obj left, right => match right with
      | .obj members => left.length == members.length && alikeMembers left right
      | _ => false
  | left, right => isNumber right && sameNumber left right

def alikeItems : List (Json F) → List (Json F) → Bool
  | [], [] => true
  | left :: lefts, right :: rights => alike left right && alikeItems lefts rights
  | _, _ => false

def alikeMembers : Members F → Json F → Bool
  | [], _ => true
  | (key, value) :: rest, whole =>
    (match field key whole with
      | some other => alike value other
      | none => false) && alikeMembers rest whole

end

end DosWeb.Library.JsonValue
