import DosWeb.Library.PathTexts

/-!
The route of an entry as the benchmark compares it: the first path in a text, without its query,
its repeated slashes and the names of its variables.
-/

namespace DosWeb.Benchmark

open Library Library.PathTexts

def placeholderChar (c : Char) : Bool := c != '/' && c != '{' && c != '}'

/-- Each variable in braces loses its name; as many characters are skipped as it had. -/
def replacePlaceholders : Nat → List Char → List Char
  | _, [] => []
  | skipped + 1, _ :: rest => replacePlaceholders skipped rest
  | 0, c :: rest =>
    let name := rest.takeWhile placeholderChar
    if c = '{' ∧ name ≠ [] ∧ (rest.drop name.length).head? = some '}' then
      '{' :: '}' :: replacePlaceholders (name.length + 1) rest
    else c :: replacePlaceholders 0 rest

def withoutNames (text : List Char) : List Char := replacePlaceholders 0 text

section

/-- What a route runs over: neither white space nor a comma nor a semicolon. -/
def routeChar (c : Char) : Bool := !Text.isSpace c && c != ',' && c != ';'

def foundRoute (text : List Char) : List Char := (text.dropWhile (· ≠ '/')).takeWhile routeChar

def endingMark (c : Char) : Bool := c = '.' || c = ',' || c = ')'

def hostChar (c : Char) : Bool := c != '/' && c != '?' && c != '#'

def beforeQuery (reference : List Char) : List Char :=
  (reference.takeWhile (· ≠ '#')).takeWhile (· ≠ '?')

variable (otherHost : List Char → Bool)

/-- A host in ASCII without brackets is accepted; others have checks of their own. -/
def acceptsHost (host : List Char) : Bool :=
  host.all (fun c => c.toNat < 128 && c != '[' && c != ']') || otherHost host

/-- `urlsplit` of a reference that starts with a slash: its path, if its host is accepted. -/
def referencePath (reference : List Char) : Option (List Char) :=
  match reference with
  | '/' :: '/' :: rest =>
    if acceptsHost otherHost (rest.takeWhile hostChar) then
      some (beforeQuery (rest.dropWhile hostChar))
    else none
  | _ => some (beforeQuery reference)

def normalizePath (path : List Char) : List Char :=
  let route := trimmed '/' (withoutNames (squeezed '/' path))
  if route = [] then ['/'] else route

/-- The normal form of a route; there is none where the splitting of the reference raises. -/
def normalizeFound (route : List Char) : Option (List Char) :=
  (referencePath otherHost (route.rdropWhile endingMark)).map normalizePath

def normalizeRoute (value : Option (List Char)) : Option (List Char) :=
  let route := foundRoute (Text.strip (value.getD []))
  if route = [] then some [] else normalizeFound otherHost route

end

section

/-- A text with some of the variables in braces deprived of their names. -/
inductive Renamed : List Char → List Char → Prop
  | nil : Renamed [] []
  | plain (c : Char) (rest after : List Char) (kept : Renamed rest after) :
      Renamed (c :: rest) (c :: after)
  | named (name rest after : List Char) (filled : name ≠ [])
      (inside : ∀ c ∈ name, placeholderChar c = true) (kept : Renamed rest after) :
      Renamed ('{' :: name ++ '}' :: rest) ('{' :: '}' :: after)

theorem replace_skipped (skipped : Nat) (text : List Char) :
    replacePlaceholders skipped text = withoutNames (text.drop skipped) := by
  induction text generalizing skipped with
  | nil => cases skipped <;> simp [replacePlaceholders, withoutNames]
  | cons c rest ih =>
    cases skipped with
    | zero => rfl
    | succ skipped => exact ih skipped

theorem without_names_cons (c : Char) (rest : List Char) : withoutNames (c :: rest) =
      if c = '{' ∧ rest.takeWhile placeholderChar ≠ [] ∧
          (rest.dropWhile placeholderChar).head? = some '}' then
        '{' :: '}' :: withoutNames (rest.dropWhile placeholderChar).tail
      else c :: withoutNames rest := by
  have dropped : rest.drop (rest.takeWhile placeholderChar).length =
      rest.dropWhile placeholderChar := by
    calc
      rest.drop (rest.takeWhile placeholderChar).length =
          (rest.takeWhile placeholderChar ++ rest.dropWhile placeholderChar).drop
            (rest.takeWhile placeholderChar).length := by rw [List.takeWhile_append_dropWhile]
      _ = rest.dropWhile placeholderChar := List.drop_left
  have skipped : replacePlaceholders ((rest.takeWhile placeholderChar).length + 1) rest =
      withoutNames (rest.dropWhile placeholderChar).tail := by
    rw [replace_skipped, ← List.tail_drop, dropped]
  rw [withoutNames, replacePlaceholders, dropped, skipped]
  rfl

theorem name_before (text : List Char) (stop : Char) (back : List Char)
    (stops : placeholderChar stop = false) :
    (text ++ stop :: back).takeWhile placeholderChar = text.takeWhile placeholderChar ∧
      (text ++ stop :: back).dropWhile placeholderChar =
        text.dropWhile placeholderChar ++ stop :: back := by
  induction text with
  | nil => simp [stops]
  | cons c text ih =>
    by_cases inside : placeholderChar c = true
    · simp [inside, ih.1, ih.2]
    · simp [inside]

theorem without_names_append (text : List Char) (stop : Char) (back : List Char)
    (stops : placeholderChar stop = false) (open_ : stop ≠ '}') :
    withoutNames (text ++ stop :: back) = withoutNames text ++ withoutNames (stop :: back) := by
  induction size : text.length using Nat.strong_induction_on generalizing text with
  | _ count ih =>
    cases text with
    | nil => rfl
    | cons c text =>
      obtain ⟨name, after⟩ := name_before text stop back stops
      rw [List.cons_append, without_names_cons, without_names_cons c text, name, after]
      cases left : text.dropWhile placeholderChar with
      | nil =>
        have same := ih text.length (by rw [← size]; exact Nat.lt_succ_self _) text rfl
        simp [open_, same]
      | cons d later =>
        have shorter : later.length < count := by
          have whole := (List.dropWhile_sublist placeholderChar (l := text)).length_le
          rw [left, List.length_cons] at whole
          rw [← size, List.length_cons]
          omega
        have same := ih text.length (by rw [← size]; exact Nat.lt_succ_self _) text rfl
        have rest := ih later.length shorter later rfl
        by_cases named : c = '{' ∧ text.takeWhile placeholderChar ≠ [] ∧
            (d :: later).head? = some '}'
        · have longer : c = '{' ∧ text.takeWhile placeholderChar ≠ [] ∧
              (d :: later ++ stop :: back).head? = some '}' := named
          rw [if_pos longer, if_pos named, List.cons_append, List.tail_cons, List.tail_cons, rest]
          rfl
        · have longer : ¬ (c = '{' ∧ text.takeWhile placeholderChar ≠ [] ∧
              (d :: later ++ stop :: back).head? = some '}') := named
          rw [if_neg longer, if_neg named, same]
          rfl

theorem without_names_named (name back : List Char) (filled : name ≠ [])
    (inside : ∀ c ∈ name, placeholderChar c = true) :
    withoutNames ('{' :: name ++ '}' :: back) = '{' :: '}' :: withoutNames back := by
  have run : (name ++ '}' :: back).takeWhile placeholderChar = name := by
    rw [List.takeWhile_append_of_pos inside]
    simp [placeholderChar]
  have rest : (name ++ '}' :: back).dropWhile placeholderChar = '}' :: back := by
    rw [List.dropWhile_append_of_pos inside]
    simp [placeholderChar]
  rw [List.cons_append, without_names_cons, run, rest, if_pos ⟨rfl, filled, rfl⟩]
  rfl

theorem renamed_self (text : List Char) : Renamed text (withoutNames text) := by
  induction size : text.length using Nat.strong_induction_on generalizing text with
  | _ count ih =>
    cases text with
    | nil => exact .nil
    | cons c text =>
      rw [without_names_cons]
      split
      · rename_i named
        obtain ⟨rfl, filled, ends_⟩ := named
        obtain ⟨later, shape⟩ := List.head?_eq_some_iff.mp ends_
        have whole := List.takeWhile_append_dropWhile (p := placeholderChar) (l := text)
        rw [shape] at whole
        rw [shape, List.tail_cons]
        have shorter : later.length < count := by
          rw [← size, ← whole]
          simp only [List.length_cons, List.length_append]
          omega
        have kept := Renamed.named _ _ _ filled
          (fun c member => List.mem_takeWhile_imp member) (ih _ shorter later rfl)
        rw [List.cons_append, whole] at kept
        exact kept
      · exact .plain c _ _ (ih text.length (by rw [← size]; exact Nat.lt_succ_self _) text rfl)

variable (text after : List Char)

section

variable (renamed : Renamed text after)

include renamed

theorem renamed_last : after.getLast? = text.getLast? := by
  induction renamed with
  | nil => rfl
  | plain c rest after kept ih =>
    rw [List.getLast?_cons, List.getLast?_cons, ih]
  | named name rest after filled inside kept ih =>
    rw [List.getLast?_append, List.getLast?_cons, List.getLast?_cons, List.getLast?_cons, ih]
    rfl

theorem renamed_nil_iff : after = [] ↔ text = [] := by
  cases renamed <;> simp

theorem renamed_short : after.length ≤ text.length := by
  induction renamed with
  | nil => exact le_refl _
  | plain c rest after kept ih => simpa using ih
  | named name rest after filled inside kept ih =>
    simp only [List.cons_append, List.length_cons, List.length_append]
    omega

theorem renamed_mem (c : Char) (member : c ∈ after) : c ∈ text := by
  induction renamed with
  | nil => exact member
  | plain d rest after kept ih =>
    rcases List.mem_cons.mp member with same | later
    · exact same ▸ (.head _)
    · exact .tail _ (ih later)
  | named name rest after filled inside kept ih =>
    rcases List.mem_cons.mp member with same | more
    · exact same ▸ (.head _)
    · apply List.mem_cons_of_mem
      apply List.mem_append_right
      rcases List.mem_cons.mp more with same | later
      · exact same ▸ (.head _)
      · exact .tail _ (ih later)

end

theorem without_names_plain (c : Char) (rest : List Char) (other : c ≠ '{') :
    withoutNames (c :: rest) = c :: withoutNames rest := by
  rw [without_names_cons, if_neg fun named => other named.1]

theorem name_kept : (withoutNames text).takeWhile placeholderChar = text.takeWhile placeholderChar ∧
      ((withoutNames text).dropWhile placeholderChar).head? =
        (text.dropWhile placeholderChar).head? := by
  induction text with
  | nil => exact ⟨rfl, rfl⟩
  | cons c text ih =>
    rw [without_names_cons]
    split
    · rename_i named
      rw [named.1]
      exact ⟨rfl, rfl⟩
    · by_cases inside : placeholderChar c = true
      · simp [inside, ih.1, ih.2]
      · simp [inside]

theorem without_names_twice : withoutNames (withoutNames text) = withoutNames text := by
  induction size : text.length using Nat.strong_induction_on generalizing text with
  | _ count ih =>
    cases text with
    | nil => rfl
    | cons c text =>
      have own := ih text.length (by rw [← size]; exact Nat.lt_succ_self _) text rfl
      rw [without_names_cons]
      split
      · rename_i named
        have shorter : (text.dropWhile placeholderChar).tail.length < count := by
          have whole := (List.dropWhile_sublist placeholderChar (l := text)).length_le
          rw [← size, List.length_tail, List.length_cons]
          omega
        rw [without_names_cons, if_neg, without_names_plain '}' _ (by decide), ih _ shorter _ rfl]
        exact fun again => again.2.1 rfl
      · rename_i open_
        obtain ⟨name, first⟩ := name_kept text
        rw [without_names_cons, name, first, if_neg open_, own]

theorem without_names_rendered (parts : List (List Char)) :
    withoutNames (rendered '/' parts) = rendered '/' (parts.map withoutNames) := by
  induction parts with
  | nil => rfl
  | cons part parts ih =>
    have first : rendered '/' (part :: parts) = '/' :: (part ++ rendered '/' parts) := by
      simp [rendered]
    have after : rendered '/' ((part :: parts).map withoutNames) =
        '/' :: (withoutNames part ++ rendered '/' (parts.map withoutNames)) := by
      simp [rendered]
    rw [first, after, without_names_plain '/' _ (by decide), ← ih]
    cases parts with
    | nil => simp [rendered, withoutNames, replacePlaceholders]
    | cons next parts =>
      have shape : rendered '/' (next :: parts) = '/' :: (next ++ rendered '/' parts) := by
        simp [rendered]
      rw [shape, without_names_append part '/' _ (by decide) (by decide)]

theorem renamed_plain (parts : List (List Char)) (plain : Plain '/' parts) :
    Plain '/' (parts.map withoutNames) := by
  intro after member
  obtain ⟨part, inside, rfl⟩ := List.mem_map.mp member
  have own := plain part inside
  exact ⟨fun empty => own.1 ((renamed_nil_iff part _ (renamed_self part)).mp empty),
    fun slash => own.2 (renamed_mem part _ (renamed_self part) '/' slash)⟩

end

variable (path : List Char)

theorem segments_without_names :
    pathSegments '/' (withoutNames path) = (pathSegments '/' path).map withoutNames := by
  induction size : path.length using Nat.strong_induction_on generalizing path with
  | _ count ih =>
    by_cases inside : '/' ∈ path
    · obtain ⟨front, back, rfl, plain⟩ := List.eq_append_cons_of_mem inside
      have first : front.length < count := by
        rw [← size, List.length_append, List.length_cons]
        omega
      have second : back.length < count := by
        rw [← size, List.length_append, List.length_cons]
        omega
      rw [without_names_append _ '/' _ (by decide) (by decide),
        without_names_plain '/' _ (by decide), segments_append, segments_append,
        ih _ first front rfl, ih _ second back rfl, List.map_append]
    · have plain : '/' ∉ withoutNames path :=
        fun member => inside (renamed_mem path _ (renamed_self path) '/' member)
      by_cases empty : path = []
      · rw [empty]
        rfl
      · have filled : withoutNames path ≠ [] :=
          fun none_ => empty ((renamed_nil_iff path _ (renamed_self path)).mp none_)
        rw [segments_whole '/' _ filled plain, segments_whole '/' path empty inside]
        rfl

/-- The segments of a path without the names of its variables. -/
def forms (path : List Char) : List (List Char) := (pathSegments '/' path).map withoutNames

theorem forms_plain : Plain '/' (forms path) := renamed_plain _ (segments_plain '/' path)

theorem normalize_path_text (leads : path = [] ∨ path.head? = some '/') :
    normalizePath path = pathText '/' (forms path) := by
  have plain := trimmed_rendered '/' _ (forms_plain path)
  have short : trimmed '/' (withoutNames (squeezed '/' path)) = rendered '/' (forms path) := by
    rcases leads with rfl | slash
    · rfl
    · rcases squeezed_rendered '/' path slash with whole | ended
      · rw [whole, without_names_rendered]
        exact plain
      · rw [ended, without_names_append _ '/' [] (by decide) (by decide), without_names_rendered,
          show withoutNames ['/'] = ['/'] from rfl, trimmed_concat]
        exact plain
  unfold normalizePath
  rw [short]
  by_cases root : forms path = []
  · rw [pathText, if_pos root, root]
    rfl
  · obtain ⟨part, parts, shape⟩ := List.exists_cons_of_ne_nil root
    have filled : rendered '/' (forms path) ≠ [] := by
      rw [shape]
      exact List.cons_ne_nil _ _
    rw [pathText, if_neg root]
    dsimp only
    rw [if_neg filled]

theorem normalize_path_short (filled : path ≠ []) : (normalizePath path).length ≤ path.length := by
  have one := squeezed_short '/' path
  have two := renamed_short _ _ (renamed_self (squeezed '/' path))
  have three := (List.rdropWhile_prefix (fun c => decide (c = '/'))
    (withoutNames (squeezed '/' path))).length_le
  have some_ := List.length_pos_iff.mpr filled
  unfold normalizePath trimmed
  dsimp only
  split
  · exact some_
  · omega

end DosWeb.Benchmark
