import DosWeb.Library.JsonRecord

/-!
Records as mappings: what stands under each key decides everything up to the order of the members.
-/

namespace DosWeb.Library.JsonRecord

open Library.JsonValue

variable {F : Type}

def remove (key : String) (record : Members F) : Members F :=
  record.filter fun member => member.1 ≠ key

def put (key : String) (value : Json F) (record : Members F) : Members F :=
  remove key record ++ [(key, value)]

section

theorem present_nil (key : String) : present ([] : Members F) key = none := rfl

theorem present_cons (member : String × Json F) (record : Members F) (key : String) :
    present (member :: record) key =
      if member.1 = key then some member.2 else present record key := by
  by_cases same : member.1 = key
  · simp [present, field, same]
  · simp [present, field, same]

theorem present_append (left right : Members F) (key : String) :
    present (left ++ right) key = (present left key).or (present right key) := by
  induction left with
  | nil => rfl
  | cons member left ih =>
    rw [List.cons_append, present_cons, present_cons, ih]
    split <;> rfl

variable (record : Members F)

theorem present_remove (removed key : String) :
    present (remove removed record) key = if key = removed then none else present record key := by
  induction record with
  | nil => simp [remove, present_nil]
  | cons member record ih =>
    unfold remove at ih ⊢
    by_cases own : member.1 = removed
    · rw [List.filter_cons_of_neg (by simp [own]), ih, present_cons, own]
      by_cases same : key = removed
      · simp [same]
      · simp [same, Ne.symm same]
    · rw [List.filter_cons_of_pos (by simp [own]), present_cons, ih, present_cons]
      by_cases same : member.1 = key
      · have other : key ≠ removed := fun equal => own (same.trans equal)
        simp [same, other]
      · simp [same]

theorem present_put (added key : String) (value : Json F) : present (put added value record) key =
      if key = added then some value else present record key := by
  rw [put, present_append, present_remove, present_cons, present_nil]
  by_cases same : key = added
  · simp [same]
  · simp [same, Ne.symm same]

theorem present_iff (distinct : (record.map Prod.fst).Nodup)
    (key : String) (value : Json F) : present record key = some value ↔ (key, value) ∈ record := by
  constructor
  · intro found
    obtain ⟨member, held, same⟩ := Option.map_eq_some_iff.mp found
    have key_ : member.1 = key := by simpa using List.find?_some held
    rw [← key_, ← same]
    exact List.mem_of_find?_eq_some held
  · intro inside
    exact get_member record distinct (key, value) inside

theorem mem_keys_iff (key : String) : key ∈ record.map Prod.fst ↔ present record key ≠ none := by
  induction record with
  | nil => simp [present_nil]
  | cons member record ih =>
    rw [List.map_cons, List.mem_cons, ih, present_cons]
    by_cases same : member.1 = key
    · simp [same]
    · simp [same, Ne.symm same]

theorem remove_distinct (removed : String)
    (distinct : (record.map Prod.fst).Nodup) : ((remove removed record).map Prod.fst).Nodup :=
  distinct.sublist (List.Sublist.map _ List.filter_sublist)

theorem put_distinct (added : String) (value : Json F) (distinct : (record.map Prod.fst).Nodup) :
    ((put added value record).map Prod.fst).Nodup := by
  rw [put, List.map_append, List.map_singleton]
  apply List.Nodup.append (remove_distinct record added distinct) (List.nodup_singleton _)
  intro key inside other
  rw [List.mem_singleton] at other
  subst other
  obtain ⟨member, held, same⟩ := List.mem_map.mp inside
  have apart := (List.mem_filter.mp held).2
  simp [same] at apart

theorem remove_distinct_keys (removed : String)
    (distinct : DistinctKeys (.obj record)) : DistinctKeys (.obj (remove removed record)) := by
  refine ⟨remove_distinct record removed distinct.1, (distinctMembers_iff _).mpr ?_⟩
  intro member inside
  exact (distinctMembers_iff _).mp distinct.2 member (List.mem_filter.mp inside).1

theorem put_distinct_keys (added : String) (value : Json F)
    (distinct : DistinctKeys (.obj record)) (own : DistinctKeys value) :
    DistinctKeys (.obj (put added value record)) := by
  refine ⟨put_distinct record added value distinct.1, (distinctMembers_iff _).mpr ?_⟩
  intro member inside
  rcases List.mem_append.mp inside with kept | last
  · exact (distinctMembers_iff _).mp distinct.2 member (List.mem_filter.mp kept).1
  · rw [List.mem_singleton.mp last]
    exact own

end

/-- Records are equal up to the order of members where the same values stand under each key. -/
theorem normalize_eq_iff (left right : Members F) (leftDistinct : (left.map Prod.fst).Nodup)
    (rightDistinct : (right.map Prod.fst).Nodup) : normalizeMembers left = normalizeMembers right ↔
      ∀ key, (present left key).map JsonValue.normalize =
        (present right key).map JsonValue.normalize := by
  constructor
  · intro same key
    rw [← present_normalize left leftDistinct, same, present_normalize right rightDistinct]
  · intro same
    have leftOrdered : ((normalizeMembers left).map Prod.fst).Nodup :=
      (normalizeMembers_keys_perm left).nodup_iff.mpr leftDistinct
    have rightOrdered : ((normalizeMembers right).map Prod.fst).Nodup :=
      (normalizeMembers_keys_perm right).nodup_iff.mpr rightDistinct
    have apart : ∀ one other : String × Json F, one ∈ normalizeMembers left →
        other ∈ normalizeMembers right → one.1 < other.1 → other.1 < one.1 → one = other :=
      fun _ _ _ _ below above => absurd (lt_trans below above) (lt_irrefl _)
    apply List.Perm.eq_of_pairwise apart
    · exact normalizeMembers_sorted _ leftDistinct
    · exact normalizeMembers_sorted _ rightDistinct
    · apply (List.perm_ext_iff_of_nodup leftOrdered.of_map rightOrdered.of_map).mpr
      intro member
      rw [← present_iff _ leftOrdered member.1 member.2,
        ← present_iff _ rightOrdered member.1 member.2, present_normalize left leftDistinct,
        present_normalize right rightDistinct, same]

end DosWeb.Library.JsonRecord
