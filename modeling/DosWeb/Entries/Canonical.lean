import DosWeb.Entries.Models
import DosWeb.Library.Segments

/-!
The canonical forms of source paths and routes are fixed by a second canonicalisation, and a
path never grows.
-/

namespace DosWeb.Entries

open Library Library.Segments

def slashed (path : List Char) : List Char := path.map fun c => if c = '\\' then '/' else c

variable (path : List Char)

theorem slashed_plain : '\\' ∉ slashed path := by
  intro member
  obtain ⟨c, -, same⟩ := List.mem_map.mp member
  split at same
  · exact absurd same (by decide)
  · rename_i other
    exact other same

theorem slashed_fixed (plain : '\\' ∉ path) : slashed path = path := by
  calc
    _ = path.map id := by
      apply List.map_congr_left
      intro c member
      have other : c ≠ '\\' := fun same => plain (same ▸ member)
      rw [if_neg other]
      rfl
    _ = path := List.map_id path

theorem slashed_bytes : (Text.utf8 (slashed path)).length = (Text.utf8 path).length := by
  induction path with
  | nil => rfl
  | cons c rest ih =>
    simp only [slashed, Text.utf8, List.map_cons, List.flatMap_cons, List.length_append] at ih ⊢
    rw [ih]
    split
    · rename_i same
      rw [same]
      rfl
    · rfl

theorem mem_slashed (c : Char) (member : c ∈ slashed path) : c = '/' ∨ c ∈ path := by
  obtain ⟨original, inside, same⟩ := List.mem_map.mp member
  split at same
  · exact Or.inl same.symm
  · exact Or.inr (same ▸ inside)

def keepsPart (part : List Char) : Bool := part ≠ [] && part ≠ ['.']

theorem path_parts_kept : pathParts path = kept '/' keepsPart path := by
  rw [pathParts, text_splitOn]
  rfl

theorem joined_kept_plain (keep : List Char → Bool) (path : List Char) (c : Char)
    (member : c ∈ joined '/' (kept '/' keep (slashed path))) : c = '/' ∨ c ∈ path := by
  rcases mem_joined '/' _ c member with same | ⟨part, inside, held⟩
  · exact Or.inl same
  · exact mem_slashed path c ((kept_part '/' keep _ part inside).2.2 held)

theorem joined_kept_slashed (keep : List Char → Bool) (path : List Char) :
    slashed (joined '/' (kept '/' keep (slashed path))) =
      joined '/' (kept '/' keep (slashed path)) := by
  apply slashed_fixed
  intro member
  rcases mem_joined '/' _ _ member with same | ⟨part, inside, held⟩
  · exact absurd same (by decide)
  · exact slashed_plain path ((kept_part '/' keep _ part inside).2.2 held)

theorem normal_path_eq :
    normalPath path = if (slashed path).head? = some '/' ∨ pathParts (slashed path) = [] ∨
        ['.', '.'] ∈ pathParts (slashed path) then none
      else some (joined '/' (pathParts (slashed path))) := rfl

theorem normal_path_shape (path normal : List Char) (found : normalPath path = some normal) :
    normal = joined '/' (kept '/' keepsPart (slashed path)) ∧
      kept '/' keepsPart (slashed path) ≠ [] ∧ ['.', '.'] ∉ kept '/' keepsPart (slashed path) := by
  rw [normal_path_eq] at found
  split at found
  · cases found
  · rename_i sound
    simp only [path_parts_kept, not_or] at sound
    exact ⟨by rw [← Option.some_inj.mp found, path_parts_kept], sound.2.1, sound.2.2⟩

theorem joined_head (parts : List (List Char)) (filled : parts ≠ [])
    (whole : ∀ part ∈ parts, part ≠ [] ∧ '/' ∉ part) : (joined '/' parts).head? ≠ some '/' := by
  cases parts with
  | nil => exact absurd rfl filled
  | cons part rest =>
    obtain ⟨own, plain⟩ := whole part (.head _)
    cases part with
    | nil => exact absurd rfl own
    | cons c tail =>
      have other : c ≠ '/' := fun same => plain (same ▸ (.head _))
      by_cases last : rest = []
      · simpa [joined, last] using other
      · simpa [joined_cons '/' _ _ last] using other

theorem normal_path_fixed (path normal : List Char) (found : normalPath path = some normal) :
    normalPath normal = some normal := by
  obtain ⟨shape, filled, up⟩ := normal_path_shape path normal found
  have same : slashed normal = normal := shape ▸ joined_kept_slashed keepsPart path
  have whole : ∀ part ∈ kept '/' keepsPart (slashed path), keepsPart part = true ∧ '/' ∉ part :=
    fun part member => ⟨(kept_part _ _ _ _ member).1, (kept_part _ _ _ _ member).2.1⟩
  have parts : pathParts (slashed normal) = kept '/' keepsPart (slashed path) := by
    rw [path_parts_kept, same, shape]
    exact kept_joined '/' keepsPart _ filled whole
  have head : (slashed normal).head? ≠ some '/' := by
    rw [same, shape]
    apply joined_head _ filled
    intro part member
    have kept := whole part member
    simp only [keepsPart, Bool.and_eq_true, decide_eq_true_eq] at kept
    exact ⟨kept.1.1, kept.2⟩
  rw [normal_path_eq, parts, if_neg (by simp [head, filled, up]), ← shape]

theorem normal_path_valid (text : String) (normal : List Char) (valid : validText text = true)
    (found : normalPath text.toList = some normal) : validText (String.ofList normal) = true := by
  obtain ⟨shape, filled, -⟩ := normal_path_shape _ _ found
  simp only [validText, Bool.and_eq_true, Bool.not_eq_true', decide_eq_true_eq] at valid ⊢
  obtain ⟨⟨-, solid⟩, short⟩ := valid
  have nonempty : normal ≠ [] := by
    intro empty
    have again := normal_path_fixed _ _ found
    rw [empty] at again
    exact absurd again (by decide)
  have zero : Char.ofNat 0 ∉ normal := by
    intro member
    rcases joined_kept_plain keepsPart _ _ (shape ▸ member) with same | inside
    · exact absurd same (by decide)
    · simp [inside] at solid
  have bytes : (Text.utf8 normal).length ≤ (Text.utf8 text.toList).length := by
    rw [← slashed_bytes text.toList, shape, utf8_weight, utf8_weight]
    exact joined_kept_weight '/' keepsPart _ _
  refine ⟨⟨by simpa using nonempty, by simpa using zero⟩, ?_⟩
  rw [String.toList_ofList]
  exact bytes.trans short

theorem normal_path_stands (text : FieldText) (normal : List Char)
    (found : normalPath text.1.toList = some normal) : validText (String.ofList normal) = true ∧
      normalPath (String.ofList normal).toList = some (String.ofList normal).toList :=
  ⟨normal_path_valid _ _ text.2 found, by simpa using normal_path_fixed _ _ found⟩

/-- The method and the rest of a route that starts with an HTTP method. -/
def routeMethod (route : List Char) : Option (String × List Char) := do
  let (head, path) ← Text.partition ' ' route
  let name ← upperMethod head
  return (name, path)

def segments (path : List Char) : List (List Char) := kept '/' (· ≠ []) (slashed path)

theorem join_segments_eq : joinSegments path = '/' :: joined '/' (segments path) := by
  simp only [joinSegments, text_splitOn]
  rfl

theorem segments_lead : segments ('/' :: path) = segments path := by
  have lead : slashed ('/' :: path) = '/' :: slashed path := rfl
  simp [segments, lead, kept, List.splitOn_cons_eq_if_modifyHead]

theorem segments_joined : segments (joined '/' (segments path)) = segments path := by
  rw [segments, segments, joined_kept_slashed]
  by_cases none : kept '/' (fun part => decide (part ≠ [])) (slashed path) = []
  · rw [none]
    rfl
  · apply kept_joined '/' _ _ none
    intro part member
    exact ⟨(kept_part _ _ _ _ member).1, (kept_part _ _ _ _ member).2.1⟩

theorem join_segments_fixed : joinSegments (joinSegments path) = joinSegments path := by
  rw [join_segments_eq, join_segments_eq path, segments_lead, segments_joined]

theorem method_fixed : ∀ name ∈ httpMethods,
    upperMethod name.toList = some name ∧ ' ' ∉ name.toList := by
  decide

def upperText (text : List Char) : String :=
  String.ofList (text.flatMap fun c => (upperExpansions.lookup c.toNat).getD [c.toUpper])

theorem upper_method_eq (text : List Char) :
    upperMethod text = if upperText text ∈ httpMethods then some (upperText text) else none := rfl

theorem upper_method_listed (head : List Char) (name : String)
    (found : upperMethod head = some name) : name ∈ httpMethods := by
  rw [upper_method_eq] at found
  split at found
  · rename_i listed
    exact Option.some_inj.mp found ▸ listed
  · cases found

theorem method_lead : ∀ name ∈ httpMethods, name.toList.head? ≠ some '/' := by
  decide

theorem upper_method_slash (rest : List Char) : upperMethod ('/' :: rest) = none := by
  cases found : upperMethod ('/' :: rest) with
  | none => rfl
  | some name =>
    have listed := upper_method_listed _ _ found
    have upper : name.toList.head? = some '/' := by
      rw [upper_method_eq] at found
      split at found
      · rw [← Option.some_inj.mp found, upperText, String.toList_ofList, List.flatMap_cons]
        rfl
      · cases found
    exact absurd upper (method_lead name listed)

theorem route_method_slash (rest : List Char) : routeMethod ('/' :: rest) = none := by
  unfold routeMethod
  cases cut : Text.partition ' ' ('/' :: rest) with
  | none => rfl
  | some parts =>
    obtain ⟨head, path⟩ := parts
    have shape := Text.partition_shape ' ' _ _ _ cut
    cases head with
    | nil => exact absurd (List.head_eq_of_cons_eq shape) (by decide)
    | cons c tail =>
      have first : c = '/' := (List.head_eq_of_cons_eq shape).symm
      simp [first, upper_method_slash]

theorem route_method_listed (route path : List Char) (name : String)
    (found : routeMethod route = some (name, path)) : name ∈ httpMethods := by
  unfold routeMethod at found
  obtain ⟨⟨head, rest⟩, -, inner⟩ := Option.bind_eq_some_iff.mp found
  obtain ⟨upper, listed, same⟩ := Option.bind_eq_some_iff.mp inner
  cases same
  exact upper_method_listed _ _ listed

theorem route_method_named (name : String) (listed : name ∈ httpMethods) (path : List Char) :
    routeMethod (name.toList ++ ' ' :: path) = some (name, path) := by
  obtain ⟨upper, plain⟩ := method_fixed name listed
  simp [routeMethod, Text.partition_append ' ' _ path plain, upper]

theorem canonical_route_eq (route : FieldText) (framework : Framework) :
    canonicalRoute route framework =
      if framework = .springMvc ∨ framework = .servlet ∨ framework = .jaxRs then
        match routeMethod route.1.toList with
        | some (name, path) => name ++ " " ++ String.ofList (joinSegments path)
        | none => String.ofList (joinSegments route.1.toList)
      else if framework = .netty then
        match routeMethod route.1.toList with
        | some (name, path) =>
          if path.head? = some '/' then name ++ " " ++ String.ofList (joinSegments path)
          else route.1
        | none => route.1
      else route.1 := rfl

theorem named_route_text (name : String) (path : List Char) :
    (name ++ " " ++ String.ofList path).toList = name.toList ++ ' ' :: path := by
  simp [String.toList_append]

theorem canonical_route_fixed (route again : FieldText) (framework : Framework)
    (same : again.1 = canonicalRoute route framework) :
    canonicalRoute again framework = again.1 := by
  have unchanged : again.1 = route.1 → canonicalRoute again framework = again.1 := by
    intro own
    rw [Subtype.ext own, ← same, own]
  rw [canonical_route_eq] at same ⊢
  split at same
  · rename_i http
    rw [if_pos http]
    cases found : routeMethod route.1.toList with
    | some parts =>
      obtain ⟨name, path⟩ := parts
      have listed := route_method_listed _ _ _ found
      simp only [found] at same
      rw [same, named_route_text, route_method_named name listed]
      simp only [join_segments_fixed]
    | none =>
      simp only [found] at same
      rw [same, String.toList_ofList, join_segments_eq, route_method_slash, ← join_segments_eq]
      simp only [join_segments_fixed]
  · rename_i other
    rw [canonical_route_eq, if_neg other] at unchanged
    rw [if_neg other]
    split at same
    · rename_i netty
      rw [if_pos netty] at unchanged ⊢
      cases found : routeMethod route.1.toList with
      | some parts =>
        obtain ⟨name, path⟩ := parts
        have listed := route_method_listed _ _ _ found
        simp only [found] at same
        split at same
        · rw [same, named_route_text, route_method_named name listed]
          simp only [join_segments_fixed]
          rw [join_segments_eq]
          rfl
        · exact unchanged same
      | none =>
        simp only [found] at same
        exact unchanged same
    · rename_i plain
      rw [if_neg plain]

end DosWeb.Entries
