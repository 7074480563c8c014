import Mathlib.Data.List.Perm.Basic
import Mathlib.Data.List.Sort
import Mathlib.Data.List.Induction

/-!
Items put together under their keys, each group where its first item came, and sequences that sort
to one.
-/

namespace DosWeb.Library.Grouping

variable {κ α β : Type}

section

variable [DecidableEq κ]

/-- Adds an item to the group of its key, or opens the group. -/
def place (key : κ) (item : α) : List (κ × List α) → List (κ × List α)
  | [] => [(key, [item])]
  | held :: groups =>
    if held.1 = key then (held.1, held.2 ++ [item]) :: groups
    else held :: place key item groups

def group (keyOf : α → κ) (items : List α) : List (κ × List α) :=
  items.foldl (fun groups item => place (keyOf item) item groups) []

/-- The keys in the order of their first items, each with its own items. -/
def spread (keyOf : α → κ) (items : List α) (keys : List κ) : List (κ × List α) :=
  keys.map fun key => (key, items.filter fun item => keyOf item = key)

variable (keyOf : α → κ)

section

variable (items : List α) (item : α) (keys : List κ)

theorem spread_other (absent : keyOf item ∉ keys) :
    spread keyOf (items ++ [item]) keys = spread keyOf items keys := by
  apply List.map_congr_left
  intro key member
  have apart : keyOf item ≠ key := fun same => absent (same ▸ member)
  simp [List.filter_append, apart]

theorem place_spread (distinct : keys.Nodup) (present : keyOf item ∈ keys) :
    place (keyOf item) item (spread keyOf items keys) = spread keyOf (items ++ [item]) keys := by
  induction keys with
  | nil => cases present
  | cons key keys ih =>
    obtain ⟨fresh, others⟩ := List.nodup_cons.mp distinct
    by_cases same : key = keyOf item
    · have rest := spread_other keyOf items item keys (same ▸ fresh)
      simp only [spread, List.map_cons] at rest ⊢
      rw [rest, place, if_pos same]
      simp [List.filter_append, same]
    · have later : keyOf item ∈ keys :=
        (List.mem_cons.mp present).resolve_left fun equal => same equal.symm
      have rest := ih others later
      simp only [spread, List.map_cons] at rest ⊢
      rw [place, if_neg same, rest]
      simp [List.filter_append, Ne.symm same]

theorem place_fresh (fresh : keyOf item ∉ keys) :
    place (keyOf item) item (spread keyOf items keys) =
      spread keyOf items keys ++ [(keyOf item, [item])] := by
  induction keys with
  | nil => rfl
  | cons key keys ih =>
    have split := not_or.mp fun member => fresh (List.mem_cons.mpr member)
    have rest := ih split.2
    simp only [spread, List.map_cons, List.cons_append] at rest ⊢
    rw [place, if_neg (Ne.symm split.1), rest]

end

/-- What grouping makes of some items: keys without repetition, and all of them. -/
structure Keys (keyOf : α → κ) (items : List α) (keys : List κ) : Prop where
  grouped : group keyOf items = spread keyOf items keys
  distinct : keys.Nodup
  complete : ∀ key, key ∈ keys ↔ ∃ item ∈ items, keyOf item = key

theorem group_keys (items : List α) : ∃ keys, Keys keyOf items keys := by
  induction items using List.reverseRecOn with
  | nil => exact ⟨[], rfl, List.nodup_nil, by simp⟩
  | append_singleton items item ih =>
    obtain ⟨keys, held⟩ := ih
    have step : group keyOf (items ++ [item]) =
        place (keyOf item) item (spread keyOf items keys) := by
      rw [← held.grouped, group, List.foldl_append]
      rfl
    by_cases present : keyOf item ∈ keys
    · refine ⟨keys, step.trans (place_spread keyOf items item keys held.distinct present),
        held.distinct, fun key => ?_⟩
      rw [held.complete key]
      constructor
      · intro found
        obtain ⟨other, inside, same⟩ := found
        exact ⟨other, List.mem_append_left _ inside, same⟩
      · intro found
        obtain ⟨other, inside, same⟩ := found
        rcases List.mem_append.mp inside with earlier | last
        · exact ⟨other, earlier, same⟩
        · rw [List.mem_singleton.mp last] at same
          exact (held.complete key).mp (same ▸ present)
    · have none_ : items.filter (fun other => keyOf other = keyOf item) = [] := by
        rw [List.filter_eq_nil_iff]
        intro other inside same
        exact present ((held.complete _).mpr ⟨other, inside, by simpa using same⟩)
      refine ⟨keys ++ [keyOf item], ?_, ?_, fun key => ?_⟩
      · rw [step, place_fresh keyOf items item keys present,
          ← spread_other keyOf items item keys present]
        simp [spread, List.filter_append, none_]
      · rw [List.nodup_append]
        refine ⟨held.distinct, List.nodup_singleton _, ?_⟩
        intro key inside other last same
        rw [List.mem_singleton.mp last] at same
        exact present (same ▸ inside)
      · simp only [List.mem_append, List.mem_singleton, held.complete key]
        constructor
        · intro found
          rcases found with ⟨other, inside, same⟩ | same
          · exact ⟨other, Or.inl inside, same⟩
          · exact ⟨item, Or.inr rfl, same.symm⟩
        · intro found
          obtain ⟨other, inside | rfl, same⟩ := found
          · exact Or.inl ⟨other, inside, same⟩
          · exact Or.inr same.symm

theorem mem_group (items : List α) (held : κ × List α) : held ∈ group keyOf items ↔
      held.2 = items.filter (fun item => keyOf item = held.1) ∧ held.2 ≠ [] := by
  obtain ⟨keys, found⟩ := group_keys keyOf items
  rw [found.grouped, spread, List.mem_map]
  constructor
  · intro member
    obtain ⟨key, inside, rfl⟩ := member
    obtain ⟨item, present, same⟩ := (found.complete key).mp inside
    refine ⟨rfl, List.ne_nil_of_mem (List.mem_filter.mpr ⟨present, by simpa using same⟩)⟩
  · intro own
    obtain ⟨item, member⟩ := List.exists_mem_of_ne_nil _ own.2
    rw [own.1, List.mem_filter] at member
    refine ⟨held.1, (found.complete _).mpr ⟨item, member.1, by simpa using member.2⟩, ?_⟩
    rw [← own.1]

theorem group_distinct (items : List α) : (group keyOf items).Nodup := by
  obtain ⟨keys, found⟩ := group_keys keyOf items
  rw [found.grouped]
  exact found.distinct.map fun left right same => congrArg Prod.fst same

/-- The groups of the same items in another order are the same up to their order and that of
their items. -/
theorem group_perm (items rearranged : List α) (permuted : rearranged.Perm items) :
    ∃ groups, groups.Perm (group keyOf items) ∧
      List.Forall₂ (fun left right => left.1 = right.1 ∧ left.2.Perm right.2)
        (group keyOf rearranged) groups := by
  obtain ⟨keys, found⟩ := group_keys keyOf items
  obtain ⟨others, refound⟩ := group_keys keyOf rearranged
  have same : others.Perm keys := by
    apply (List.perm_ext_iff_of_nodup refound.distinct found.distinct).mpr
    intro key
    rw [refound.complete, found.complete]
    constructor
    · intro held
      obtain ⟨item, member, own⟩ := held
      exact ⟨item, permuted.mem_iff.mp member, own⟩
    · intro held
      obtain ⟨item, member, own⟩ := held
      exact ⟨item, permuted.mem_iff.mpr member, own⟩
  refine ⟨spread keyOf items others, ?_, ?_⟩
  · rw [found.grouped]
    exact same.map _
  · rw [refound.grouped, spread, spread, List.forall₂_map_left_iff, List.forall₂_map_right_iff,
      List.forall₂_same]
    exact fun key _ => ⟨rfl, permuted.filter _⟩

end

theorem lookup_iff [BEq κ] [LawfulBEq κ] (table : List (κ × β))
    (distinct : (table.map Prod.fst).Nodup) (key : κ) (value : β) :
    table.lookup key = some value ↔ (key, value) ∈ table := by
  induction table with
  | nil => simp
  | cons held rest ih =>
    obtain ⟨own, kept⟩ := held
    rw [List.map_cons, List.nodup_cons] at distinct
    rw [List.lookup_cons, List.mem_cons, Prod.mk.injEq]
    by_cases same : key = own
    · have absent : (key, value) ∉ rest := by
        intro member
        apply distinct.1
        rw [← same]
        exact List.mem_map.mpr ⟨(key, value), member, rfl⟩
      rw [← same, beq_self_eq_true]
      simp [absent, eq_comm]
    · rw [beq_false_of_ne same, ih distinct.2]
      simp [same]

theorem lookup_perm [BEq κ] [LawfulBEq κ] (left right : List (κ × β)) (permuted : left.Perm right)
    (distinct : (left.map Prod.fst).Nodup) (key : κ) : left.lookup key = right.lookup key := by
  induction permuted with
  | nil => rfl
  | cons held _ ih =>
    have rest := ih (List.nodup_cons.mp distinct).2
    rw [List.lookup_cons, List.lookup_cons, rest]
  | swap first second rest =>
    have apart : second.1 ≠ first.1 := by
      intro same
      simp [same] at distinct
    rw [List.lookup_cons, List.lookup_cons, List.lookup_cons, List.lookup_cons]
    by_cases own : key = first.1
    · have other : (key == second.1) = false := by
        rw [own]
        exact beq_false_of_ne apart.symm
      rw [other, own, beq_self_eq_true]
    · have other : (key == first.1) = false := beq_false_of_ne own
      simp [other]
  | trans one _ ih again =>
    rw [ih distinct, again ((one.map Prod.fst).nodup_iff.mp distinct)]

theorem find_perm [DecidableEq κ] (keyOf : α → κ) (left right : List α) (permuted : left.Perm right)
    (distinct : (left.map keyOf).Nodup) (key : κ) :
    (left.find? fun item => keyOf item = key) = right.find? fun item => keyOf item = key := by
  induction permuted with
  | nil => rfl
  | cons held _ ih =>
    have rest := ih (List.nodup_cons.mp distinct).2
    simp only [List.find?, rest]
  | swap first second rest =>
    have apart : keyOf second ≠ keyOf first := by
      intro same
      simp [same] at distinct
    simp only [List.find?]
    by_cases own : keyOf first = key
    · have other : ¬ keyOf second = key := fun same => apart (same.trans own.symm)
      simp [own, other]
    · simp [own]
  | trans one _ ih again =>
    rw [ih distinct, again ((one.map keyOf).nodup_iff.mp distinct)]

section

variable [LE κ] [DecidableLE κ] [Std.Total fun left right : κ => left ≤ right] [IsTrans κ (· ≤ ·)]

theorem sorted_by_key (keyOf : α → κ) (items : List α) :
    (items.insertionSort fun left right => keyOf left ≤ keyOf right).Pairwise fun left right =>
      keyOf left ≤ keyOf right := by
  have total : Std.Total fun left right : α => keyOf left ≤ keyOf right :=
    ⟨fun _ _ => Std.Total.total _ _⟩
  have trans : IsTrans α fun left right => keyOf left ≤ keyOf right :=
    ⟨fun _ _ _ => IsTrans.trans _ _ _⟩
  exact List.pairwise_insertionSort _ _

variable [Std.Antisymm fun left right : κ => left ≤ right]

theorem sort_perm (keyOf : α → κ) (items rearranged : List α) (permuted : rearranged.Perm items)
    (apart : ∀ left ∈ items, ∀ right ∈ items, keyOf left = keyOf right → left = right) :
    rearranged.insertionSort (fun left right => keyOf left ≤ keyOf right) =
      items.insertionSort fun left right => keyOf left ≤ keyOf right := by
  apply List.Perm.eq_of_pairwise _ (sorted_by_key keyOf rearranged) (sorted_by_key keyOf items)
  · exact (List.perm_insertionSort _ _).trans (permuted.trans (List.perm_insertionSort _ _).symm)
  · intro left right leftIn rightIn below above
    rw [List.mem_insertionSort] at leftIn rightIn
    exact apart left (permuted.mem_iff.mp leftIn) right rightIn (antisymm below above)

theorem sorted_keys_perm (keyOf : α → κ) (items rearranged : List α)
    (permuted : rearranged.Perm items) :
    (rearranged.insertionSort fun left right => keyOf left ≤ keyOf right).map keyOf =
      (items.insertionSort fun left right => keyOf left ≤ keyOf right).map keyOf := by
  have ordered (items : List α) : ((items.insertionSort fun left right =>
      keyOf left ≤ keyOf right).map keyOf).Pairwise (· ≤ ·) :=
    List.pairwise_map.mpr (sorted_by_key keyOf items)
  apply List.Perm.eq_of_pairwise _ (ordered rearranged) (ordered items)
  · exact ((List.perm_insertionSort _ _).trans
      (permuted.trans (List.perm_insertionSort _ _).symm)).map keyOf
  · exact fun _ _ _ _ below above => antisymm below above

end

theorem related_right {relation : α → β → Prop} {left : List α} {right : List β}
    (all : List.Forall₂ relation left right) (result : β) (member : result ∈ right) :
    ∃ item ∈ left, relation item result := by
  induction all with
  | nil => cases member
  | cons own _ ih =>
    rcases List.mem_cons.mp member with same | later
    · exact ⟨_, .head _, same ▸ own⟩
    · obtain ⟨item, inside, related⟩ := ih later
      exact ⟨item, .tail _ inside, related⟩

theorem related_nodup (relation : α → β → Prop) (left : List α) (right : List β)
    (all : List.Forall₂ relation left right) (distinct : left.Nodup)
    (apart : ∀ one ∈ left, ∀ other ∈ left, ∀ result, relation one result →
      relation other result → one = other) : right.Nodup := by
  induction all with
  | nil => exact List.nodup_nil
  | cons own rest ih =>
    rename_i item result items results
    obtain ⟨fresh, others⟩ := List.nodup_cons.mp distinct
    refine List.nodup_cons.mpr ⟨fun member => ?_, ih others fun one first other second =>
      apart one (.tail _ first) other (.tail _ second)⟩
    obtain ⟨other, inside, related⟩ := related_right rest _ member
    have same := apart item (.head _) other (.tail _ inside) _ own related
    exact fresh (same ▸ inside)

theorem related_trans {γ : Type} (first : α → β → Prop) (second : β → γ → Prop)
    (whole : α → γ → Prop) (left : List α) (middle : List β) (right : List γ)
    (one : List.Forall₂ first left middle) (other : List.Forall₂ second middle right)
    (joins : ∀ between ∈ middle, ∀ item result, first item between → second between result →
      whole item result) : List.Forall₂ whole left right := by
  induction one generalizing right with
  | nil =>
    cases other
    exact .nil
  | cons own _ ih =>
    cases other with
    | cons next rest =>
      exact .cons (joins _ (.head _) _ _ own next)
        (ih _ rest fun between inside => joins between (.tail _ inside))

theorem forall_related {α β : Type} (relation : α → β → Prop) (items : List α) :
    (∃ others, List.Forall₂ relation items others) ↔
      ∀ item ∈ items, ∃ other, relation item other := by
  induction items with
  | nil => exact iff_of_true ⟨[], .nil⟩ nofun
  | cons item items ih =>
    rw [List.forall_mem_cons, ← ih]
    constructor
    · rintro ⟨_, related⟩
      obtain ⟨other, others, own, rest, -⟩ := List.forall₂_cons_left_iff.mp related
      exact ⟨⟨other, own⟩, others, rest⟩
    · rintro ⟨⟨other, own⟩, others, rest⟩
      exact ⟨other :: others, .cons own rest⟩

theorem forall_through {α β γ : Type} (first : α → β → Prop) (second : β → γ → Prop)
    (items : List α) (results : List γ) :
    List.Forall₂ (fun item result => ∃ between, first item between ∧ second between result) items
      results ↔
    ∃ betweens, List.Forall₂ first items betweens ∧ List.Forall₂ second betweens results := by
  constructor
  · intro related
    induction related with
    | nil => exact ⟨[], .nil, .nil⟩
    | cons own _ ih =>
      obtain ⟨between, one, two⟩ := own
      obtain ⟨betweens, firsts, seconds⟩ := ih
      exact ⟨between :: betweens, .cons one firsts, .cons two seconds⟩
  · rintro ⟨betweens, firsts, seconds⟩
    induction firsts generalizing results with
    | nil =>
      cases seconds
      exact .nil
    | cons one _ ih =>
      obtain ⟨result, others, two, rest, rfl⟩ := List.forall₂_cons_left_iff.mp seconds
      exact .cons ⟨_, one, two⟩ (ih others rest)

variable [BEq α] [LawfulBEq α] [BEq β] [LawfulBEq β]

theorem erase_dups_renamed (name : α → β) (items : List α)
    (apart : ∀ left ∈ items, ∀ right ∈ items, name left = name right → left = right) :
    (items.map name).eraseDups = items.eraseDups.map name := by
  induction size : items.length using Nat.strong_induction_on generalizing items with
  | _ count ih =>
    cases items with
    | nil => rfl
    | cons first rest =>
      rw [List.map_cons, List.eraseDups_cons, List.eraseDups_cons, List.map_cons]
      have kept : (rest.map name).filter (fun other => !other == name first) =
          (rest.filter fun other => !other == first).map name := by
        rw [List.filter_map]
        congr 1
        apply List.filter_congr
        intro other member
        have same : (name other == name first) = (other == first) := by
          rw [Bool.eq_iff_iff, beq_iff_eq, beq_iff_eq]
          exact ⟨apart other (.tail _ member) first (.head _), congrArg name⟩
        simp [same]
      have shorter := List.length_filter_le (fun other => !other == first) rest
      rw [kept, ih (rest.filter fun other => !other == first).length (by
        rw [← size, List.length_cons]
        omega) _ (fun left one right other => apart left
          (.tail _ (List.mem_of_mem_filter one)) right
          (.tail _ (List.mem_of_mem_filter other))) rfl]

omit [BEq β] [LawfulBEq β] in
theorem erase_dups_nodup (items : List α) : items.eraseDups.Nodup := by
  induction size : items.length using Nat.strong_induction_on generalizing items with
  | _ count ih =>
    cases items with
    | nil => exact List.nodup_nil
    | cons first rest =>
      have shorter := List.length_filter_le (fun other => !other == first) rest
      rw [List.eraseDups_cons, List.nodup_cons]
      refine ⟨?_, ih _ (by rw [← size, List.length_cons]; omega) _ rfl⟩
      intro member
      have kept := List.of_mem_filter (List.mem_eraseDups.mp member)
      simp at kept

end DosWeb.Library.Grouping
