import DosWeb.Library.JsonRoundTrip

/-!
The reader that Python uses by default: of repeated keys the last one counts, and the constants
that JSON lacks are floating-point numbers. Objects come with their members in key order.
-/

namespace DosWeb.Library.JsonLoads

open Library.JsonValue Library.JsonText

variable {F : Type}

def lastMembers : Members F → Members F
  | [] => []
  | member :: members =>
    if member.1 ∈ members.map Prod.fst then lastMembers members
    else member :: lastMembers members

variable (members : Members F)

theorem lastMembers_distinct (distinct : (members.map Prod.fst).Nodup) :
    lastMembers members = members := by
  induction members with
  | nil => rfl
  | cons member members ih =>
    obtain ⟨fresh, rest⟩ := List.nodup_cons.mp distinct
    rw [lastMembers, if_neg fresh, ih rest]

variable [FloatText F]

def scanConstant : List Char → Option (Json F × List Char)
  | 'N' :: 'a' :: 'N' :: rest =>
    (FloatText.read "NaN".toList).map fun value => (.float value, rest)
  | 'I' :: 'n' :: 'f' :: 'i' :: 'n' :: 'i' :: 't' :: 'y' :: rest =>
    (FloatText.read "Infinity".toList).map fun value => (.float value, rest)
  | '-' :: 'I' :: 'n' :: 'f' :: 'i' :: 'n' :: 'i' :: 't' :: 'y' :: rest =>
    (FloatText.read "-Infinity".toList).map fun value => (.float value, rest)
  | _ => none

mutual

def scanValue (maxDigits : Nat) : Nat → List Char → Option (Json F × List Char)
  | 0, _ => none
  | fuel + 1, input =>
    match input with
    | '"' :: rest => (scanText rest).map fun (text, rest) => (.str text, rest)
    | '{' :: rest =>
      match skipSpace rest with
      | '}' :: rest => some (.obj [], rest)
      | rest => (scanMembers maxDigits fuel rest).map fun (members, rest) =>
        (.obj (lastMembers members), rest)
    | '[' :: rest =>
      match skipSpace rest with
      | ']' :: rest => some (.arr [], rest)
      | rest => (scanItems maxDigits fuel rest).map fun (items, rest) => (.arr items, rest)
    | 'n' :: 'u' :: 'l' :: 'l' :: rest => some (.null, rest)
    | 't' :: 'r' :: 'u' :: 'e' :: rest => some (.bool true, rest)
    | 'f' :: 'a' :: 'l' :: 's' :: 'e' :: rest => some (.bool false, rest)
    | _ =>
      match scanNumber input with
      | some (token, rest) => (token.value maxDigits).map fun value => (value, rest)
      | none => scanConstant input

def scanItems (maxDigits : Nat) : Nat → List Char → Option (List (Json F) × List Char)
  | 0, _ => none
  | fuel + 1, input => do
      let (item, rest) ← scanValue maxDigits fuel input
      match skipSpace rest with
      | ']' :: rest => return ([item], rest)
      | ',' :: rest => do
          let (items, rest) ← scanItems maxDigits fuel (skipSpace rest)
          return (item :: items, rest)
      | _ => none

def scanMembers (maxDigits : Nat) : Nat → List Char → Option (Members F × List Char)
  | 0, _ => none
  | fuel + 1, input =>
    match input with
    | '"' :: rest => do
        let (key, rest) ← scanText rest
        match skipSpace rest with
        | ':' :: rest => do
            let (value, rest) ← scanValue maxDigits fuel (skipSpace rest)
            match skipSpace rest with
            | '}' :: rest => return ([(key, value)], rest)
            | ',' :: rest => do
                let (members, rest) ← scanMembers maxDigits fuel (skipSpace rest)
                return ((key, value) :: members, rest)
            | _ => none
        | _ => none
    | _ => none

end

def loads (maxDigits : Nat) (input : List Char) : Option (Json F) := do
  let (value, rest) ← scanValue maxDigits (2 * input.length + 2) (skipSpace input)
  if skipSpace rest = [] then return JsonValue.normalize value else none

theorem scan_of_read (maxDigits fuel : Nat) :
    (∀ input result, readValue (F := F) maxDigits fuel input = some result →
      scanValue maxDigits fuel input = some result) ∧
    (∀ input result, readItems (F := F) maxDigits fuel input = some result →
      scanItems maxDigits fuel input = some result) ∧
    ∀ input result, readMembers (F := F) maxDigits fuel input = some result →
      scanMembers maxDigits fuel input = some result := by
  induction fuel with
  | zero =>
    refine ⟨?_, ?_, ?_⟩ <;> intro input result read
    · cases read
    · cases read
    · cases read
  | succ fuel ih =>
    obtain ⟨values, items, members⟩ := ih
    refine ⟨?_, ?_, ?_⟩
    · intro input result read
      rw [readValue.eq_def] at read
      rw [scanValue.eq_def]
      simp only at read ⊢
      split at read
      · exact read
      · rename_i rest
        split at read
        · rename_i tail shape
          simpa only [shape] using read
        · obtain ⟨⟨kept, final⟩, inner, same⟩ := Option.bind_eq_some_iff.mp read
          split at same
          · rename_i distinct
            simp only [members _ _ inner, Option.map_some, lastMembers_distinct kept distinct]
            exact same
          · cases same
      · rename_i rest
        split at read
        · rename_i tail shape
          simpa only [shape] using read
        · obtain ⟨⟨kept, final⟩, inner, same⟩ := Option.bind_eq_some_iff.mp read
          simp only [items _ _ inner, Option.map_some]
          exact same
      · exact read
      · exact read
      · exact read
      · obtain ⟨⟨token, rest⟩, scanned, inner⟩ := Option.bind_eq_some_iff.mp read
        obtain ⟨value, valued, same⟩ := Option.bind_eq_some_iff.mp inner
        simp only [scanned, valued]
        exact same
    · intro input result read
      simp only [readItems, bind, Option.bind_eq_some_iff] at read
      obtain ⟨⟨item, rest⟩, own, more⟩ := read
      simp only [scanItems, values input _ own, bind, Option.bind_some]
      split at more
      · rename_i shape
        simp only [shape]
        exact more
      · rename_i shape
        obtain ⟨⟨others, final⟩, tail, same⟩ := Option.bind_eq_some_iff.mp more
        simp only [shape, items _ _ tail, Option.bind_some]
        exact same
      · cases more
    · intro input result read
      rw [readMembers.eq_def] at read
      rw [scanMembers.eq_def]
      simp only at read ⊢
      split at read
      · obtain ⟨⟨key, afterKey⟩, named, colon⟩ := Option.bind_eq_some_iff.mp read
        simp only [named, bind, Option.bind_some]
        split at colon
        · rename_i shape
          obtain ⟨⟨value, afterValue⟩, own, more⟩ := Option.bind_eq_some_iff.mp colon
          simp only [shape, values _ _ own, Option.bind_some]
          split at more
          · rename_i closing
            simp only [closing]
            exact more
          · rename_i comma
            obtain ⟨⟨others, final⟩, tail, same⟩ := Option.bind_eq_some_iff.mp more
            simp only [comma, members _ _ tail, Option.bind_some]
            exact same
          · cases more
        · cases colon
      · cases read

variable (maxDigits : Nat) (input : List Char) (value : Json F)

theorem loads_of_strict (read : JsonText.loads maxDigits input = some value) :
    loads maxDigits input = some (JsonValue.normalize value) := by
  unfold JsonText.loads at read
  obtain ⟨⟨held, rest⟩, inner, same⟩ := Option.bind_eq_some_iff.mp read
  unfold loads
  rw [(scan_of_read maxDigits _).1 _ _ inner]
  by_cases blank : skipSpace rest = []
  · simp only [blank, if_true, pure, Option.some.injEq] at same ⊢
    simp [blank, same]
  · simp [blank] at same

theorem loads_canonical [LawfulFloatText F] (maxDigits : Nat) (value : Json F)
    (printed : printable maxDigits value = true) (distinct : DistinctKeys value) :
    loads maxDigits (render (JsonValue.normalize value) ++ ['\n']) =
      some (JsonValue.normalize value) := by
  have strict : JsonText.loads maxDigits (render (JsonValue.normalize value) ++ ['\n']) =
      some (JsonValue.normalize value) := by
    apply JsonRoundTrip.loads_render
    · rw [JsonRoundTrip.printable_normalize]
      exact printed
    · exact distinctKeys_normalize value distinct
    · rfl
    · exact JsonRoundTrip.boundary_cons _ _ (by decide)
  rw [loads_of_strict maxDigits _ _ strict, normalize_idempotent value distinct]

omit [FloatText F] in
theorem lastMembers_subset : lastMembers members ⊆ members := by
  induction members with
  | nil => exact List.Subset.refl _
  | cons member members ih =>
    unfold lastMembers
    split
    · exact fun _ kept => .tail _ (ih kept)
    · exact List.cons_subset_cons _ ih

omit [FloatText F] in
theorem lastMembers_keys : ((lastMembers members).map Prod.fst).Nodup := by
  induction members with
  | nil => exact List.nodup_nil
  | cons member members ih =>
    unfold lastMembers
    split
    · exact ih
    · rename_i fresh
      rw [List.map_cons, List.nodup_cons]
      exact ⟨fun kept => fresh (List.map_subset _ (lastMembers_subset members) kept), ih⟩

theorem scan_distinct (maxDigits fuel : Nat) :
    (∀ input result, scanValue (F := F) maxDigits fuel input = some result →
      DistinctKeys result.1) ∧
    (∀ input result, scanItems (F := F) maxDigits fuel input = some result →
      ∀ item ∈ result.1, DistinctKeys item) ∧
    ∀ input result, scanMembers (F := F) maxDigits fuel input = some result →
      ∀ member ∈ result.1, DistinctKeys member.2 := by
  induction fuel with
  | zero =>
    refine ⟨?_, ?_, ?_⟩ <;> intro input result read
    · cases read
    · cases read
    · cases read
  | succ fuel ih =>
    obtain ⟨values, items, members⟩ := ih
    refine ⟨?_, ?_, ?_⟩
    · intro input result read
      rw [scanValue.eq_def] at read
      simp only at read
      split at read
      · obtain ⟨_, _, same⟩ := Option.map_eq_some_iff.mp read
        subst same
        trivial
      · split at read
        · cases read
          exact ⟨List.nodup_nil, trivial⟩
        · obtain ⟨⟨kept, final⟩, inner, same⟩ := Option.map_eq_some_iff.mp read
          subst same
          refine ⟨lastMembers_keys kept, (distinctMembers_iff _).mpr ?_⟩
          intro member held
          exact members _ _ inner member (lastMembers_subset kept held)
      · split at read
        · cases read
          trivial
        · obtain ⟨⟨kept, final⟩, inner, same⟩ := Option.map_eq_some_iff.mp read
          subst same
          exact (distinctItems_iff _).mpr (items _ _ inner)
      · cases read
        trivial
      · cases read
        trivial
      · cases read
        trivial
      · split at read
        · obtain ⟨value, valued, same⟩ := Option.map_eq_some_iff.mp read
          subst same
          unfold NumberToken.value at valued
          split at valued
          · split at valued
            · cases valued
              trivial
            · cases valued
          · obtain ⟨_, _, same⟩ := Option.map_eq_some_iff.mp valued
            subst same
            trivial
        · unfold scanConstant at read
          split at read
          · obtain ⟨_, _, same⟩ := Option.map_eq_some_iff.mp read
            subst same
            trivial
          · obtain ⟨_, _, same⟩ := Option.map_eq_some_iff.mp read
            subst same
            trivial
          · obtain ⟨_, _, same⟩ := Option.map_eq_some_iff.mp read
            subst same
            trivial
          · cases read
    · intro input result read
      simp only [scanItems, bind, Option.bind_eq_some_iff] at read
      obtain ⟨⟨item, rest⟩, own, more⟩ := read
      split at more
      · cases more
        exact List.forall_mem_singleton.mpr (values _ _ own)
      · obtain ⟨⟨others, final⟩, tail, same⟩ := Option.bind_eq_some_iff.mp more
        cases same
        exact List.forall_mem_cons.mpr ⟨values _ _ own, items _ _ tail⟩
      · cases more
    · intro input result read
      rw [scanMembers.eq_def] at read
      simp only at read
      split at read
      · obtain ⟨⟨key, afterKey⟩, named, colon⟩ := Option.bind_eq_some_iff.mp read
        split at colon
        · obtain ⟨⟨value, afterValue⟩, own, more⟩ := Option.bind_eq_some_iff.mp colon
          split at more
          · cases more
            exact List.forall_mem_singleton.mpr (values _ _ own)
          · obtain ⟨⟨others, final⟩, tail, same⟩ := Option.bind_eq_some_iff.mp more
            cases same
            exact List.forall_mem_cons.mpr ⟨values _ _ own, members _ _ tail⟩
          · cases more
        · cases colon
      · cases read

theorem loads_normal (read : loads maxDigits input = some value) :
    DistinctKeys value ∧ JsonValue.normalize value = value := by
  unfold loads at read
  obtain ⟨⟨held, rest⟩, inner, same⟩ := Option.bind_eq_some_iff.mp read
  have distinct := (scan_distinct maxDigits _).1 _ _ inner
  by_cases blank : skipSpace rest = []
  · simp only [blank, if_true, pure, Option.some.injEq] at same
    subst same
    exact ⟨distinctKeys_normalize held distinct, normalize_idempotent held distinct⟩
  · simp [blank] at same

theorem strict_distinct (read : JsonText.loads maxDigits input = some value) :
    DistinctKeys value := by
  unfold JsonText.loads at read
  obtain ⟨⟨held, rest⟩, inner, same⟩ := Option.bind_eq_some_iff.mp read
  have distinct := (scan_distinct maxDigits _).1 _ _ ((scan_of_read maxDigits _).1 _ _ inner)
  by_cases blank : skipSpace rest = []
  · simp only [blank, if_true, pure, Option.some.injEq] at same
    rw [← same]
    exact distinct
  · simp [blank] at same

end DosWeb.Library.JsonLoads
