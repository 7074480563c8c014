import DosWeb.Library.Fallible
import Mathlib.Data.List.Nodup
import Mathlib.Data.List.Perm.Basic

/-!
Registers in which a key belongs to the owner that claimed it first, and folds over a sequence
that read its items, claim keys and refuse a second item of one identity. What such a fold
accepts does not depend on the order of the sequence.
-/

namespace DosWeb.Library.Owners

section

variable {κ σ : Type} [DecidableEq κ] [DecidableEq σ]

def ownerOf (register : List (κ × σ)) (key : κ) : Option σ :=
  (register.find? fun claim => claim.1 = key).map Prod.snd

def claim (register : List (κ × σ)) (key : κ) (owner : σ) : Option (List (κ × σ)) :=
  match ownerOf register key with
  | some holder => if holder ≠ owner then none else some (register ++ [(key, owner)])
  | none => some (register ++ [(key, owner)])

def Consistent (register : List (κ × σ)) : Prop :=
  ∀ left ∈ register, ∀ right ∈ register, left.1 = right.1 → left.2 = right.2

omit [DecidableEq κ] [DecidableEq σ] in
theorem consistent_nil : Consistent ([] : List (κ × σ)) := by
  intro left member
  exact absurd member List.not_mem_nil

omit [DecidableEq κ] [DecidableEq σ] in
theorem consistent_of_subset (register larger : List (κ × σ)) (within : register ⊆ larger)
    (consistent : Consistent larger) : Consistent register := by
  intro left leftIn right rightIn
  exact consistent left (within leftIn) right (within rightIn)

omit [DecidableEq κ] [DecidableEq σ] in
theorem consistent_left (register added : List (κ × σ))
    (consistent : Consistent (register ++ added)) : Consistent register :=
  consistent_of_subset _ _ (List.subset_append_left _ _) consistent

omit [DecidableEq σ] in
theorem ownerOf_some (register : List (κ × σ)) (key : κ) (owner : σ)
    (found : ownerOf register key = some owner) : (key, owner) ∈ register := by
  obtain ⟨held, first, same⟩ := Option.map_eq_some_iff.mp found
  have member := List.mem_of_find?_eq_some first
  have named : held.1 = key := by simpa using List.find?_some first
  rw [← named, ← same]
  exact member

omit [DecidableEq σ] in
theorem ownerOf_none (register : List (κ × σ)) (key : κ) (owner : σ)
    (missing : ownerOf register key = none) : (key, owner) ∉ register := by
  intro member
  have every := List.find?_eq_none.mp (Option.map_eq_none_iff.mp missing) _ member
  simp at every

theorem claim_iff (register : List (κ × σ)) (consistent : Consistent register) (key : κ)
    (owner : σ) (later : List (κ × σ)) : claim register key owner = some later ↔
      later = register ++ [(key, owner)] ∧ Consistent (register ++ [(key, owner)]) := by
  have free (agree : ∀ other, (key, other) ∈ register → other = owner) :
      Consistent (register ++ [(key, owner)]) := by
    intro ⟨left, leftOwner⟩ leftIn ⟨right, rightOwner⟩ rightIn same
    simp only [List.mem_append, List.mem_singleton, Prod.mk.injEq] at leftIn rightIn same ⊢
    rcases leftIn with leftIn | ⟨rfl, rfl⟩ <;> rcases rightIn with rightIn | ⟨rfl, rfl⟩
    · exact consistent _ leftIn _ rightIn same
    · exact agree _ (same ▸ leftIn)
    · exact (agree _ (same ▸ rightIn)).symm
    · rfl
  unfold claim
  cases found : ownerOf register key with
  | none =>
    have agrees := free fun other member => absurd member (ownerOf_none register key other found)
    simp [agrees, eq_comm]
  | some holder =>
    have held := ownerOf_some register key holder found
    by_cases same : holder = owner
    · subst same
      have agrees := free fun other member => consistent _ member _ held rfl
      simp [agrees, eq_comm]
    · have clash : ¬ Consistent (register ++ [(key, owner)]) := by
        intro agrees
        exact same (agrees (key, holder) (by simp [held]) (key, owner) (by simp) rfl)
      simp [same, clash]

end

variable {κ σ α β ι ε : Type}

/-- A fold over steps that read an item and add its value, as long as the state stays valid. -/
theorem adds_run {τ : Type} (step : τ → α → Except ε τ) (read : α → Option β) (add : τ → β → τ)
    (Valid : τ → Prop) (closed : ∀ state value, Valid (add state value) → Valid state)
    (adds : ∀ state item result, Valid state → (step state item = .ok result ↔
      ∃ value, read item = some value ∧ result = add state value ∧ Valid (add state value)))
    (items : List α) (state : τ) (valid : Valid state) (result : τ) :
    items.foldlM step state = .ok result ↔
      ∃ values : List β, items.map read = values.map some ∧ result = values.foldl add state ∧
        Valid (values.foldl add state) := by
  have earlier (values : List β) (state : τ) (valid : Valid (values.foldl add state)) :
      Valid state := by
    induction values generalizing state with
    | nil => exact valid
    | cons value values ih => exact closed _ _ (ih _ valid)
  induction items generalizing state with
  | nil =>
    simp only [List.foldlM_nil, List.map_nil, pure, Except.pure, Except.ok.injEq, List.nil_eq,
      List.map_eq_nil_iff, exists_eq_left, List.foldl_nil, valid, and_true]
    exact eq_comm
  | cons item items ih =>
    rw [List.foldlM_cons, bind_ok]
    constructor
    · intro ⟨middle, stepped, rest⟩
      obtain ⟨value, own, rfl, held⟩ := (adds state item middle valid).mp stepped
      obtain ⟨values, others, same, all⟩ := (ih _ held).mp rest
      exact ⟨value :: values, by rw [List.map_cons, List.map_cons, own, others], same, all⟩
    · intro ⟨values, reads, same, all⟩
      cases values with
      | nil => cases reads
      | cons value values =>
        have reading := List.cons.inj reads
        have held := earlier values _ all
        exact ⟨_, (adds state item _ valid).mpr ⟨value, reading.1, rfl, held⟩,
          (ih _ held).mpr ⟨values, reading.2, same, all⟩⟩

/-- A step that reads an item, claims its keys and keeps it when no item of its identity is kept. -/
def Collects (step : List β × List (κ × σ) → α → Except ε (List β × List (κ × σ)))
    (read : α → Option β) (identity : β → ι) (keys : β → List (κ × σ)) : Prop :=
  ∀ kept register item result, Consistent register → (step (kept, register) item = .ok result ↔
      ∃ value, read item = some value ∧ identity value ∉ kept.map identity ∧
        result = (kept ++ [value], register ++ keys value) ∧ Consistent (register ++ keys value))

theorem collects_run (step : List β × List (κ × σ) → α → Except ε (List β × List (κ × σ)))
    (read : α → Option β) (identity : β → ι) (keys : β → List (κ × σ))
    (collects : Collects step read identity keys) (items : List α) (kept : List β)
    (register : List (κ × σ)) (consistent : Consistent register)
    (distinct : (kept.map identity).Nodup) (result : List β × List (κ × σ)) :
    items.foldlM step (kept, register) = .ok result ↔ ∃ values, items.map read = values.map some ∧
        ((kept ++ values).map identity).Nodup ∧
          result = (kept ++ values, register ++ values.flatMap keys) ∧
            Consistent (register ++ values.flatMap keys) := by
  have added (values : List β) (state : List β × List (κ × σ)) :
      values.foldl (fun state value => (state.1 ++ [value], state.2 ++ keys value)) state =
        (state.1 ++ values, state.2 ++ values.flatMap keys) := by
    induction values generalizing state with
    | nil => simp
    | cons value values ih => simp [ih]
  have fresh (kept : List β) (value : β) :
      ((kept ++ [value]).map identity).Nodup ↔
        (kept.map identity).Nodup ∧ identity value ∉ kept.map identity := by
    rw [List.map_append, List.map_singleton, List.nodup_append_comm, List.singleton_append,
      List.nodup_cons, and_comm]
  rw [adds_run step read (fun state value => (state.1 ++ [value], state.2 ++ keys value))
    (fun state => (state.1.map identity).Nodup ∧ Consistent state.2)
    (fun _ _ valid => ⟨((fresh _ _).mp valid.1).1, consistent_left _ _ valid.2⟩) ?_
    items _ ⟨distinct, consistent⟩ result]
  · simp only [added, and_left_comm]
  · intro state item result valid
    rw [collects state.1 state.2 item result valid.2]
    simp only [fresh, valid.1, true_and, and_left_comm]

def Claims (step : List (κ × σ) → α → Except ε (List (κ × σ))) (read : α → Option β)
    (keys : β → List (κ × σ)) : Prop := ∀ register item result, Consistent register →
    (step register item = .ok result ↔
      ∃ value, read item = some value ∧ result = register ++ keys value ∧
        Consistent (register ++ keys value))

theorem claims_run (step : List (κ × σ) → α → Except ε (List (κ × σ))) (read : α → Option β)
    (keys : β → List (κ × σ)) (claims : Claims step read keys) (items : List α)
    (register : List (κ × σ)) (consistent : Consistent register) (result : List (κ × σ)) :
    items.foldlM step register = .ok result ↔
      ∃ values : List β, items.map read = values.map some ∧ result = register ++ values.flatMap keys ∧
        Consistent (register ++ values.flatMap keys) := by
  rw [adds_run step read _ Consistent (fun _ _ => consistent_left _ _) claims items register
    consistent result]
  simp only [List.foldl_append_eq_append, List.flatMap_def]

theorem reads_mapM (read : α → Option β) (items : List α) (values : List β) :
    items.mapM read = some values ↔ items.map read = values.map some := by
  induction items generalizing values with
  | nil => cases values <;> simp
  | cons item items ih =>
    rw [List.mapM_cons]
    simp only [bind, Option.bind_eq_some_iff, pure, Option.some.injEq, ih]
    constructor
    · intro ⟨value, own, others, rest, same⟩
      rw [← same, List.map_cons, List.map_cons, own, rest]
    · intro reads
      cases values with
      | nil => cases reads
      | cons value values =>
        obtain ⟨own, rest⟩ := List.cons.inj reads
        exact ⟨value, own, values, rest, rfl⟩

theorem reads_perm (read : α → Option β) (items rearranged : List α) (values : List β)
    (permuted : rearranged.Perm items) (reads : items.map read = values.map some) :
    ∃ others : List β, rearranged.map read = others.map some ∧ others.Perm values := by
  have all : ∀ item ∈ rearranged, (read item).isSome = true := by
    intro item member
    have inside : read item ∈ values.map some :=
      reads ▸ List.mem_map_of_mem (permuted.mem_iff.mp member)
    obtain ⟨value, _, same⟩ := List.mem_map.mp inside
    rw [← same]
    rfl
  have whole (sequence : List α) (each : ∀ item ∈ sequence, (read item).isSome = true) :
      sequence.map read = (sequence.filterMap read).map some := by
    induction sequence with
    | nil => rfl
    | cons item sequence ih =>
      obtain ⟨value, own⟩ := Option.isSome_iff_exists.mp (each item (.head _))
      have rest := ih fun other member => each other (.tail _ member)
      simp [own, rest]
  refine ⟨rearranged.filterMap read, whole rearranged all, ?_⟩
  have same : items.filterMap read = values := by
    calc
      items.filterMap read = (items.map read).filterMap id := by rw [List.filterMap_map]; rfl
      _ = (values.map some).filterMap id := by rw [reads]
      _ = values := by rw [List.filterMap_map]; exact List.filterMap_some
  rw [← same]
  exact permuted.filterMap read

/-- Where a sequence reads as another, each of its items has a value there, and each value an
item. -/
theorem reads_item (read : α → Option β) (items : List α) (values : List β)
    (reads : items.map read = values.map some) :
    (∀ item ∈ items, ∃ value ∈ values, read item = some value) ∧
      ∀ value ∈ values, ∃ item ∈ items, read item = some value := by
  constructor
  · intro item member
    have inside : read item ∈ values.map some := reads ▸ List.mem_map_of_mem member
    obtain ⟨value, present, same⟩ := List.mem_map.mp inside
    exact ⟨value, present, same.symm⟩
  · intro value member
    have inside : some value ∈ items.map read := reads ▸ List.mem_map_of_mem member
    exact List.mem_map.mp inside

theorem reads_project {γ : Type} (read : α → Option β) (items : List α) (values : List β)
    (reads : items.map read = values.map some) (onItem : α → γ) (onValue : β → γ)
    (each : ∀ item ∈ items, ∀ value, read item = some value → onValue value = onItem item) :
    values.map onValue = items.map onItem := by
  induction items generalizing values with
  | nil =>
    cases values with
    | nil => rfl
    | cons value values => cases reads
  | cons item items ih =>
    cases values with
    | nil => cases reads
    | cons value values =>
      have split := List.cons.inj reads
      have tail := ih values split.2 fun other member => each other (.tail _ member)
      rw [List.map_cons, List.map_cons, each item (.head _) value split.1, tail]

end DosWeb.Library.Owners
