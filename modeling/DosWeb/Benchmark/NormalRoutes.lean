import DosWeb.Benchmark.RouteForms

/-!
The texts whose normal route is stable, and is the same with more slashes and with other names of
the variables.
-/

namespace DosWeb.Benchmark

open Library.PathTexts
open Library.Segments (kept_part)

variable (otherHost : List Char → Bool)

def VariableName (name : List Char) : Prop :=
  name ≠ [] ∧ ∀ c ∈ name, routeChar c = true ∧ placeholderChar c = true ∧ queryMark c = false

/-- The normal route of a text is its own, and is that of the text with a slash of the route
repeated, with a slash behind the route, and with other names of its variables. -/
structure NormalForm (text : List Char) : Prop where
  stable : ∃ result, normalizeRoute otherHost (some text) = some result ∧
    normalizeRoute otherHost (some result) = some result
  repeated : ∀ front back count, foundRoute text = front ++ '/' :: back → normalizeRoute otherHost
        (some (editedText text (front ++ List.replicate (count + 1) '/' ++ back))) =
      normalizeRoute otherHost (some text)
  trailing : foundRoute text ≠ [] →
    normalizeRoute otherHost (some (editedText text (foundRoute text ++ ['/']))) =
      normalizeRoute otherHost (some text)
  renamed : ∀ front name other back, foundRoute text = front ++ ('{' :: name ++ '}' :: back) →
    VariableName name → VariableName other →
    normalizeRoute otherHost (some (editedText text (front ++ ('{' :: other ++ '}' :: back)))) =
      normalizeRoute otherHost (some text)

/-- No route; the root; two slashes before dots and parentheses; one slash or two before a query;
or three slashes, where the last segment before the query ends in no dot and no parenthesis. -/
def Settled (route : List Char) : Prop := route = [] ∨ route = ['/'] ∨
    (∃ run, route = '/' :: '/' :: run ∧ ∀ c ∈ run, c = '.' ∨ c = ')') ∨
    (∃ mark rest, queryMark mark = true ∧
      (route = '/' :: mark :: rest ∨ route = '/' :: '/' :: mark :: rest)) ∨
    (['/', '/', '/'] <+: route ∧ Ended (pathSegments '/' (beforeQuery route)))

section

variable (text : List Char)

theorem normalize_text : normalizeRoute otherHost (some text) =
    if foundRoute text = [] then some [] else normalizeFound otherHost (foundRoute text) := by
  rw [normalizeRoute]
  simp only [Option.getD_some, found_strip]

variable (route : List Char)

theorem normalize_edited (leads : route.head? = some '/') (all : ∀ c ∈ route, routeChar c = true) :
    normalizeRoute otherHost (some (editedText text route)) = normalizeFound otherHost route := by
  have filled : route ≠ [] := by
    rintro rfl
    cases leads
  rw [normalize_text, found_edited text route leads all, if_neg filled]

theorem normalize_own (leads : route.head? = some '/') (all : ∀ c ∈ route, routeChar c = true) :
    normalizeRoute otherHost (some route) = normalizeFound otherHost route := by
  have own := found_whole route [] leads all rfl
  rw [List.append_nil] at own
  have filled : route ≠ [] := by
    rintro rfl
    cases leads
  rw [normalize_text, own, if_neg filled]

theorem root_stable : normalizeRoute otherHost (some ['/']) = some ['/'] := by
  rw [normalize_own otherHost ['/'] rfl (List.forall_mem_singleton.mpr rfl)]
  exact normal_run otherHost ['/'] [] (by simp) (by simp) (by simp)

theorem path_text_char (path : List Char) (c : Char)
    (member : c ∈ pathText '/' (forms path)) : c = '/' ∨ c ∈ path := by
  unfold pathText at member
  split at member
  · exact Or.inl (List.mem_singleton.mp member)
  · obtain ⟨after, inside, own⟩ := List.mem_flatMap.mp member
    rcases List.mem_cons.mp own with slash | later
    · exact Or.inl slash
    · obtain ⟨part, listed, rfl⟩ := List.mem_map.mp inside
      exact Or.inr ((kept_part '/' _ path part listed).2.2
        (renamed_mem part _ (renamed_self part) c later))

theorem before_query_subset : beforeQuery route ⊆ route := by
  rw [before_query]
  exact List.takeWhile_subset _

theorem path_text_single (parts : List (List Char)) (plain : Plain '/' parts) :
    ∃ rest, pathText '/' parts = '/' :: rest ∧ rest.head? ≠ some '/' := by
  cases parts with
  | nil => exact ⟨[], rfl, by decide⟩
  | cons part parts =>
    obtain ⟨filled, whole⟩ := plain part (.head _)
    obtain ⟨c, tail, rfl⟩ := List.exists_cons_of_ne_nil filled
    refine ⟨(c :: tail) ++ rendered '/' parts, by simp [pathText, rendered], ?_⟩
    rw [List.cons_append, List.head?_cons, ne_eq, Option.some_inj]
    rintro rfl
    exact whole (.head _)

theorem path_text_last (parts : List (List Char)) (plain : Plain '/' parts) (last : List Char)
    (found : parts.getLast? = some last) : (pathText '/' parts).getLast? = last.getLast? := by
  obtain ⟨front, rfl⟩ := List.getLast?_eq_some_iff.mp found
  have own := (plain last (by simp)).1
  obtain ⟨c, tail, rfl⟩ := List.exists_cons_of_ne_nil own
  rw [pathText, if_neg (by simp), rendered_concat, List.getLast?_append, List.getLast?_cons,
    List.getLast?_cons]
  rfl

theorem path_text_forms (path : List Char) : forms (pathText '/' (forms path)) = forms path := by
  have twice : ∀ parts : List (List Char),
      (parts.map withoutNames).map withoutNames = parts.map withoutNames := by
    intro parts
    rw [List.map_map]
    apply List.map_congr_left
    exact fun part _ => without_names_twice part
  calc
    forms (pathText '/' (forms path)) = (forms path).map withoutNames := by
      rw [forms, segments_path_text '/' _ (forms_plain path)]
    _ = forms path := twice _

/-- A normal route is its own normal route if and only if its last segment is not stripped. -/
theorem normal_stable_iff (all : ∀ c ∈ route, routeChar c = true) :
    normalizeRoute otherHost (some (pathText '/' (routeForms route))) =
      some (pathText '/' (routeForms route)) ↔ Ended (routeForms route) := by
  set normal := pathText '/' (routeForms route) with same
  have plain := forms_plain (beforeQuery route)
  obtain ⟨rest, shape, single⟩ := path_text_single _ plain
  have chars : ∀ c ∈ normal, routeChar c = true ∧ queryMark c = false := by
    intro c member
    rcases path_text_char _ c member with rfl | inside
    · decide
    · exact ⟨all c (before_query_subset route inside), before_query_plain route c inside⟩
  have own : normalizeRoute otherHost (some normal) = normalizeFound otherHost normal := by
    apply normalize_own
    · rw [same]
      exact congrArg List.head? shape
    · exact fun c member => (chars c member).1
  rw [own]
  constructor
  · intro stable last found
    have ends_ := path_text_last _ plain last found
    by_contra marked
    have mark : ∃ c, normal.getLast? = some c ∧ endingMark c = true := by
      rw [← ends_] at marked
      by_cases dot : normal.getLast? = some '.'
      · exact ⟨'.', dot, rfl⟩
      · by_cases close : normal.getLast? = some ')'
        · exact ⟨')', close, rfl⟩
        · exact absurd ⟨dot, close⟩ marked
    obtain ⟨c, lastChar, mark⟩ := mark
    obtain ⟨front, whole⟩ := List.getLast?_eq_some_iff.mp lastChar
    have stripped : normal.rdropWhile endingMark = front.rdropWhile endingMark := by
      rw [whole, List.rdropWhile_concat_pos _ _ _ mark]
    have first : (normal.rdropWhile endingMark).head? = some '/' :=
      rdrop_head endingMark normal '/' slash_unmarked (congrArg List.head? shape)
    obtain ⟨behind, lead⟩ := List.head?_eq_some_iff.mp first
    have alone : behind.head? ≠ some '/' := by
      obtain ⟨tail, split⟩ := List.rdropWhile_prefix endingMark normal
      rw [lead, same, show pathText '/' (routeForms route) = '/' :: rest from shape,
        List.cons_append, List.cons.injEq] at split
      intro slash
      obtain ⟨more, again⟩ := List.head?_eq_some_iff.mp slash
      rw [again] at split
      exact single (by rw [← split.2]; rfl)
    have value := normal_single otherHost normal behind lead alone
    rw [value, Option.some_inj] at stable
    have short := normalize_path_short (beforeQuery ('/' :: behind)) (by
      rw [before_query_slash]
      exact List.cons_ne_nil _ _)
    rw [normalize_path_text _ (Or.inr (by rw [before_query_slash]; rfl))] at short
    have smaller := (List.rdropWhile_prefix endingMark front).length_le
    have cut := (before_query ('/' :: behind)) ▸
      (List.takeWhile_sublist (fun c => c ≠ '#' && c ≠ '?') (l := '/' :: behind)).length_le
    have size := congrArg List.length stable
    rw [← stripped, lead] at smaller
    rw [whole, List.length_append, List.length_singleton] at size
    have equal : (pathText '/' (forms (beforeQuery ('/' :: behind)))).length =
      front.length + 1 := size
    omega
  · intro ended
    have kept : normal.rdropWhile endingMark = normal := by
      rw [List.rdropWhile_eq_self_iff]
      intro some_ mark
      have last : normal.getLast? = some (normal.getLast some_) :=
        List.getLast?_eq_some_getLast some_
      have route_ := (chars _ (List.getLast_mem some_)).1
      generalize normal.getLast some_ = c at mark last route_
      have cases_ := mark_cases c mark route_
      cases found : (routeForms route).getLast? with
      | none =>
        have root := List.getLast?_eq_none_iff.mp found
        have slash : normal = ['/'] := by
          rw [same, root]
          rfl
        rw [slash] at last
        rw [← Option.some_inj.mp last] at mark
        cases mark
      | some part =>
        have apart := ended part found
        rw [← path_text_last _ plain part found] at apart
        rcases cases_ with dot | close
        · exact apart.1 (dot ▸ last)
        · exact apart.2 (close ▸ last)
    rw [normal_single otherHost normal rest (kept.trans shape) single, Option.some_inj]
    have whole : routeForms ('/' :: rest) = routeForms route := by
      rw [routeForms, show '/' :: rest = normal from shape.symm,
        before_query_whole _ fun c member => (chars c member).2]
      exact path_text_forms (beforeQuery route)
    rw [whole]

end

theorem forms_repeated (front back : List Char) (count : Nat) :
    routeForms (front ++ List.replicate (count + 1) '/' ++ back) =
      routeForms (front ++ '/' :: back) := by
  have slashes : ∀ c ∈ List.replicate count '/', c = '/' := fun c => List.eq_of_mem_replicate
  have whole : front ++ List.replicate (count + 1) '/' ++ back =
      front ++ '/' :: (List.replicate count '/' ++ back) := by
    rw [List.replicate_succ, List.append_assoc, List.cons_append]
  have split : ∀ rest, pathSegments '/' (front ++ '/' :: rest) =
      pathSegments '/' front ++ pathSegments '/' rest := segments_append '/' front
  rcases query_cases front with plain | ⟨lead, mark, rest, query, rfl, -⟩
  · have later := forms_slashes (List.replicate count '/') back slashes
    unfold routeForms forms at later
    rw [whole, routeForms, routeForms, before_query_append front _ plain,
      before_query_append front _ plain, before_query_slash, before_query_slash, forms, forms,
      split, split, List.map_append, List.map_append, later]
  · rw [whole, routeForms, routeForms, List.append_assoc, List.append_assoc, List.cons_append,
      List.cons_append, before_query_mark _ _ _ query, before_query_mark _ _ _ query]

theorem forms_trailing (route : List Char) : routeForms (route ++ ['/']) = routeForms route := by
  rcases query_cases route with plain | ⟨lead, mark, rest, query, rfl, -⟩
  · have split := segments_append '/' route []
    rw [segments_nil, List.append_nil] at split
    rw [routeForms, routeForms, before_query_append route _ plain, before_query_whole route plain,
      show beforeQuery ['/'] = ['/'] from rfl, forms, forms, split]
  · rw [routeForms, routeForms, List.append_assoc, List.cons_append, before_query_mark _ _ _ query,
      before_query_mark _ _ _ query]

theorem before_query_named (name back : List Char) (named : VariableName name) :
    beforeQuery ('{' :: name ++ '}' :: back) = '{' :: name ++ '}' :: beforeQuery back := by
  have plain : ∀ c ∈ '{' :: name ++ ['}'], queryMark c = false := by
    intro c member
    rcases List.mem_append.mp member with front | last
    · rcases List.mem_cons.mp front with rfl | inside
      · rfl
      · exact (named.2 c inside).2.2
    · rw [List.mem_singleton.mp last]
      rfl
  have cut := before_query_append ('{' :: name ++ ['}']) back plain
  rw [List.append_assoc, List.append_assoc] at cut
  exact cut

theorem forms_renamed (front name other back : List Char) (named : VariableName name)
    (otherNamed : VariableName other) : routeForms (front ++ ('{' :: other ++ '}' :: back)) =
      routeForms (front ++ ('{' :: name ++ '}' :: back)) := by
  have value : ∀ own : List Char, VariableName own → ∀ rest,
      withoutNames (front ++ ('{' :: own ++ '}' :: rest)) =
        withoutNames front ++ '{' :: '}' :: withoutNames rest := by
    intro own variable_ rest
    have cut := without_names_append front '{' (own ++ '}' :: rest) (by decide) (by decide)
    have taken := without_names_named own rest variable_.1
      fun c member => (variable_.2 c member).2.1
    rw [List.cons_append] at taken ⊢
    rw [cut, taken]
  rcases query_cases front with plain | ⟨lead, mark, rest, query, rfl, -⟩
  · rw [routeForms, routeForms, before_query_append front _ plain,
      before_query_append front _ plain, before_query_named name back named,
      before_query_named other back otherNamed, forms, forms, ← segments_without_names,
      ← segments_without_names, value name named, value other otherNamed]
  · have behind : ∀ own : List Char,
        routeForms (lead ++ mark :: rest ++ own) = forms (beforeQuery lead) := by
      intro own
      rw [routeForms, List.append_assoc, List.cons_append, before_query_mark _ _ _ query]
    rw [behind, behind]

theorem triple_repeated (front back : List Char) (count : Nat)
    (triple : ['/', '/', '/'] <+: front ++ '/' :: back) :
    ['/', '/', '/'] <+: front ++ List.replicate (count + 1) '/' ++ back := by
  induction count generalizing back with
  | zero => simpa using triple
  | succ count ih =>
    have more : front ++ List.replicate (count + 2) '/' ++ back =
        front ++ List.replicate (count + 1) '/' ++ '/' :: back := by
      rw [List.replicate_succ' (n := count + 1)]
      simp
    rw [more]
    apply ih
    match front with
    | [] =>
      have more : ['/', '/'] <+: back := by simpa using triple
      simpa using (List.prefix_append ['/'] ['/']).trans more
    | [c] =>
      have more : '/' = c ∧ ['/'] <+: back := by simpa using triple
      simpa using more.1
    | [c, d] => simpa using triple
    | c :: d :: e :: front => simpa using triple

theorem triple_renamed (front back other : List Char)
    (triple : ['/', '/', '/'] <+: front ++ '{' :: back) :
    ['/', '/', '/'] <+: front ++ '{' :: other := by
  match front with
  | [] => simp at triple
  | [c] => simp at triple
  | [c, d] => simp at triple
  | c :: d :: e :: front => simpa using triple

section

variable (text : List Char)

theorem edited_chars (front old new back : List Char)
    (whole : foundRoute text = front ++ old ++ back) (all : ∀ c ∈ new, routeChar c = true) :
    ∀ c ∈ front ++ new ++ back, routeChar c = true := by
  have found := found_chars text
  rw [whole] at found
  intro c member
  rcases List.mem_append.mp member with early | late
  · rcases List.mem_append.mp early with own | changed
    · exact found c (by simp [own])
    · exact all c changed
  · exact found c (by simp [late])

theorem repeated_chars (front back : List Char) (count : Nat)
    (whole : foundRoute text = front ++ '/' :: back) :
    ∀ c ∈ front ++ List.replicate (count + 1) '/' ++ back, routeChar c = true := by
  apply edited_chars text front ['/'] _ back (by rw [whole]; simp)
  intro c member
  rw [List.eq_of_mem_replicate member]
  rfl

theorem trailing_chars : ∀ c ∈ foundRoute text ++ ['/'], routeChar c = true := by
  intro c member
  rcases List.mem_append.mp member with own | slash
  · exact found_chars text c own
  · rw [List.mem_singleton.mp slash]
    rfl

theorem renamed_chars (front name other back : List Char)
    (whole : foundRoute text = front ++ ('{' :: name ++ '}' :: back))
    (otherNamed : VariableName other) :
    ∀ c ∈ front ++ ('{' :: other ++ '}' :: back), routeChar c = true := by
  rw [← List.append_assoc]
  intro c member
  have listed : c ∈ front ++ ('{' :: other ++ ['}']) ++ back := by
    simpa [or_assoc] using member
  revert listed
  apply edited_chars text front ('{' :: name ++ ['}']) _ back
  · rw [whole]
    simp
  · intro d inside
    rcases List.mem_append.mp inside with lead | last
    · rcases List.mem_cons.mp lead with rfl | own
      · rfl
      · exact (otherNamed.2 d own).1
    · rw [List.mem_singleton.mp last]
      rfl

theorem edited_head (front new back rest : List Char) (filled : new.head? = some '/')
    (leads : (front ++ '/' :: rest).head? = some '/') :
    (front ++ new ++ back).head? = some '/' := by
  cases front with
  | nil =>
    obtain ⟨tail, rfl⟩ := List.head?_eq_some_iff.mp filled
    rfl
  | cons c front => exact leads

theorem renamed_head (front name other back : List Char)
    (leads : (front ++ ('{' :: name ++ '}' :: back)).head? = some '/') :
    (front ++ ('{' :: other ++ '}' :: back)).head? = some '/' := by
  cases front with
  | nil => cases leads
  | cons c front => exact leads

theorem normal_form_of (value : List Char)
    (own : normalizeFound otherHost (foundRoute text) = some value)
    (stable : normalizeRoute otherHost (some value) = some value)
    (repeated : ∀ front back count, foundRoute text = front ++ '/' :: back →
      normalizeFound otherHost (front ++ List.replicate (count + 1) '/' ++ back) = some value)
    (trailing : normalizeFound otherHost (foundRoute text ++ ['/']) = some value)
    (renamed : ∀ front name other back, foundRoute text = front ++ ('{' :: name ++ '}' :: back) →
      VariableName name → VariableName other →
      normalizeFound otherHost (front ++ ('{' :: other ++ '}' :: back)) = some value) :
    foundRoute text ≠ [] → NormalForm otherHost text := by
  intro filled
  have leads := found_head text filled
  have first : normalizeRoute otherHost (some text) = some value := by
    rw [normalize_text, if_neg filled, own]
  refine ⟨⟨value, first, stable⟩, ?_, ?_, ?_⟩
  · intro front back count whole
    rw [first, ← repeated front back count whole]
    apply normalize_edited
    · exact edited_head front _ back back (by rw [List.replicate_succ]; rfl) (whole ▸ leads)
    · exact repeated_chars text front back count whole
  · intro _
    rw [first, ← trailing]
    apply normalize_edited
    · rw [List.head?_append, leads]
      rfl
    · exact trailing_chars text
  · intro front name other back whole named otherNamed
    rw [first, ← renamed front name other back whole named otherNamed]
    apply normalize_edited
    · exact renamed_head front name other back (whole ▸ leads)
    · exact renamed_chars text front name other back whole otherNamed

theorem normal_form_empty (none_ : foundRoute text = []) : NormalForm otherHost text := by
  have own : normalizeRoute otherHost (some text) = some [] := by
    rw [normalize_text, if_pos none_]
  refine ⟨⟨[], own, rfl⟩, ?_, fun filled => absurd none_ filled, ?_⟩
  · intro front back count whole
    rw [none_] at whole
    cases front <;> cases whole
  · intro front name other back whole
    rw [none_] at whole
    cases front <;> cases whole

theorem normal_form_root (root : foundRoute text = ['/']) : NormalForm otherHost text := by
  apply normal_form_of otherHost text ['/'] _ (root_stable otherHost) _ _ _ (by simp [root])
  · rw [root]
    exact normal_run otherHost ['/'] [] (by simp) (by simp) (by simp)
  · intro front back count whole
    rw [root] at whole
    have sole : front = [] ∧ back = [] := by
      cases front with
      | nil => simpa [eq_comm] using whole
      | cons c front => simp at whole
    rw [sole.1, sole.2, List.nil_append]
    apply normal_run otherHost _ [] (by simp) _ (by simp)
    exact fun c member => List.eq_of_mem_replicate member
  · rw [root]
    exact normal_run otherHost ['/', '/'] [] (by simp) (by simp) (by simp)
  · intro front name other back whole
    rw [root] at whole
    cases front with
    | nil => simp at whole
    | cons c front => simp at whole

theorem normal_form_run (run : List Char) (whole : foundRoute text = '/' :: '/' :: run)
    (marks : ∀ c ∈ run, c = '.' ∨ c = ')') : NormalForm otherHost text := by
  have ending : ∀ c ∈ run, endingMark c = true := by
    intro c member
    rcases marks c member with rfl | rfl <;> rfl
  have plain : '/' ∉ run ∧ '{' ∉ run := by
    constructor
    · intro member
      rcases marks _ member with same | same <;> cases same
    · intro member
      rcases marks _ member with same | same <;> cases same
  apply normal_form_of otherHost text ['/'] _ (root_stable otherHost) _ _ _ (by simp [whole])
  · rw [whole]
    exact normal_run otherHost ['/', '/'] run (by simp) (by simp) ending
  · intro front back count split
    rw [whole] at split
    match front with
    | [] =>
      obtain ⟨-, rfl⟩ := List.cons.inj split
      have moved : [] ++ List.replicate (count + 1) '/' ++ '/' :: run =
          List.replicate (count + 2) '/' ++ run := by
        rw [List.replicate_succ' (n := count + 1)]
        simp
      rw [moved]
      exact normal_run otherHost _ run (by simp) (fun c => List.eq_of_mem_replicate) ending
    | [c] =>
      obtain ⟨rfl, later⟩ := List.cons.inj split
      obtain ⟨-, rfl⟩ := List.cons.inj later
      exact normal_run otherHost ('/' :: List.replicate (count + 1) '/') run (by simp)
        (List.forall_mem_cons.mpr ⟨rfl, fun c => List.eq_of_mem_replicate⟩) ending
    | c :: d :: front =>
      obtain ⟨-, later⟩ := List.cons.inj split
      obtain ⟨-, rest⟩ := List.cons.inj later
      exact absurd (rest ▸ List.mem_append_right front (.head _)) plain.1
  · rw [whole]
    exact normal_host otherHost run marks
  · intro front name other back split
    rw [whole] at split
    have member : '{' ∈ '/' :: '/' :: run := by
      rw [split]
      simp
    simp [plain.2] at member

theorem split_cases (lead front back rest : List Char) (mark c : Char) (other : mark ≠ c)
    (whole : lead ++ mark :: rest = front ++ c :: back) :
    (∃ later, lead = front ++ c :: later ∧ back = later ++ mark :: rest) ∨
      ∃ later, front = lead ++ mark :: later := by
  rcases List.append_eq_append_iff.mp whole with ⟨after, rfl, tail⟩ | ⟨after, rfl, tail⟩
  · cases after with
    | nil => exact absurd (List.cons.inj tail).1 other
    | cons d after =>
      obtain ⟨rfl, -⟩ := List.cons.inj tail
      exact Or.inr ⟨after, rfl⟩
  · cases after with
    | nil => exact absurd (List.cons.inj tail).1.symm other
    | cons d after =>
      obtain ⟨rfl, later⟩ := List.cons.inj tail
      exact Or.inl ⟨after, rfl, later⟩

theorem normal_form_query (lead rest : List Char) (mark : Char) (query : queryMark mark = true)
    (slashed : lead ≠ []) (slashes : ∀ c ∈ lead, c = '/')
    (whole : foundRoute text = lead ++ mark :: rest) : NormalForm otherHost text := by
  have other : ∀ c, queryMark c = false → mark ≠ c := by
    rintro c plain rfl
    rw [query] at plain
    cases plain
  have value : ∀ later : List Char, normalizeFound otherHost (lead ++ mark :: later) = some ['/'] :=
    fun later => normal_query otherHost lead later mark slashed slashes query
  apply normal_form_of otherHost text ['/'] _ (root_stable otherHost) _ _ _ (by simp [whole])
  · rw [whole]
    exact value rest
  · intro front back count split
    rw [whole] at split
    rcases split_cases lead front back rest mark '/' (other _ rfl) split with
      ⟨later, rfl, rfl⟩ | ⟨later, rfl⟩
    · rw [← List.append_assoc]
      apply normal_query otherHost _ rest mark (by simp) _ query
      intro c member
      have inside : c ∈ front ∨ c = '/' ∨ c ∈ later := by simpa using member
      rcases inside with early | slash | late
      · exact slashes c (List.mem_append_left _ early)
      · exact slash
      · exact slashes c (List.mem_append_right _ (.tail _ late))
    · rw [List.append_assoc, List.append_assoc]
      exact value _
  · rw [whole, List.append_assoc]
    exact value _
  · intro front name own back split named otherNamed
    rw [whole] at split
    rcases split_cases lead front (name ++ '}' :: back) rest mark '{' (other _ rfl) split with
      ⟨later, rfl, -⟩ | ⟨later, rfl⟩
    · cases slashes '{' (by simp)
    · rw [List.append_assoc]
      exact value _

theorem normal_form_triple (triple : ['/', '/', '/'] <+: foundRoute text)
    (ended : Ended (routeForms (foundRoute text))) : NormalForm otherHost text := by
  have chars := found_chars text
  have same : ∀ route, ['/', '/', '/'] <+: route → (∀ c ∈ route, routeChar c = true) →
      routeForms route = routeForms (foundRoute text) →
      normalizeFound otherHost route = some (pathText '/' (routeForms (foundRoute text))) := by
    intro route lead all equal
    rw [← equal]
    exact normal_ended otherHost route lead all (equal ▸ ended)
  apply normal_form_of otherHost text _ (same _ triple chars rfl)
  · exact (normal_stable_iff otherHost (foundRoute text) chars).mpr ended
  · intro front back count whole
    apply same
    · exact triple_repeated front back count (whole ▸ triple)
    · exact repeated_chars text front back count whole
    · rw [forms_repeated, ← whole]
  · apply same
    · exact triple.trans (List.prefix_append _ _)
    · exact trailing_chars text
    · exact forms_trailing (foundRoute text)
  · intro front name other back whole named otherNamed
    apply same
    · exact triple_renamed front (name ++ '}' :: back) _ (whole ▸ triple)
    · exact renamed_chars text front name other back whole otherNamed
    · rw [forms_renamed front name other back named otherNamed, ← whole]
  · intro none_
    rw [none_] at triple
    cases List.prefix_nil.mp triple

theorem forms_host (rest : List Char) (filled : rest.takeWhile hostChar ≠ []) :
    routeForms ('/' :: rest) =
      withoutNames (rest.takeWhile hostChar) :: routeForms (rest.dropWhile hostChar) := by
  have whole := List.takeWhile_append_dropWhile (p := hostChar) (l := rest)
  have inside : ∀ c ∈ rest.takeWhile hostChar, hostChar c = true :=
    fun c member => List.mem_takeWhile_imp member
  set host := rest.takeWhile hostChar
  have plain : ∀ c ∈ host, queryMark c = false ∧ c ≠ '/' := by
    intro c member
    have own := inside c member
    simp only [hostChar, Bool.and_eq_true, bne_iff_ne] at own
    exact ⟨by simp [queryMark, own.1.2, own.2], own.1.1⟩
  have cut : pathSegments '/' (host ++ beforeQuery (rest.dropWhile hostChar)) =
      host :: pathSegments '/' (beforeQuery (rest.dropWhile hostChar)) := by
    have alone := segments_whole '/' host filled fun member => (plain '/' member).2 rfl
    rcases host_stops rest with none_ | slash
    · rw [none_, List.append_nil, alone, segments_nil]
    · obtain ⟨back, shape⟩ := List.head?_eq_some_iff.mp slash
      rw [shape, segments_append, alone, segments_cons]
      rfl
  calc
    routeForms ('/' :: rest) = routeForms (host ++ rest.dropWhile hostChar) := by
      rw [route_forms_slash, whole]
    _ = withoutNames host :: routeForms (rest.dropWhile hostChar) := by
      rw [routeForms, before_query_append _ _ fun c member => (plain c member).1, forms, cut]
      rfl

theorem segments_route_forms (route : List Char) :
    pathSegments '/' (pathText '/' (routeForms route)) = routeForms route :=
  segments_path_text '/' _ (forms_plain (beforeQuery route))

theorem host_lost (single double rest : List Char) (filled : rest.takeWhile hostChar ≠ [])
    (value : normalizeFound otherHost single = some (pathText '/' (routeForms ('/' :: rest))))
    (shape : double.rdropWhile endingMark = '/' :: '/' :: rest) :
    normalizeFound otherHost double ≠ normalizeFound otherHost single := by
  rw [value, normal_double otherHost double rest shape, forms_host rest filled]
  split
  · intro same
    have parts := congrArg (pathSegments '/') (Option.some_inj.mp same)
    rw [← forms_host rest filled, segments_route_forms, segments_route_forms,
      forms_host rest filled] at parts
    have size := congrArg List.length parts
    rw [List.length_cons] at size
    exact Nat.ne_of_lt (Nat.lt_succ_self _) size
  · exact fun none_ => by cases none_

theorem strip_slash (route rest : List Char) (shape : route.rdropWhile endingMark = '/' :: rest) :
    ('/' :: route).rdropWhile endingMark = '/' :: '/' :: rest := by
  rw [show '/' :: route = [] ++ '/' :: route from rfl, rdrop_stop _ [] route '/' slash_unmarked,
    shape]
  rfl

theorem strip_trailing (route : List Char) :
    (route ++ ['/']).rdropWhile endingMark = route ++ ['/'] :=
  rdrop_stop _ route [] '/' slash_unmarked

theorem host_filled (c : Char) (rest : List Char) (slash : c ≠ '/') (query : queryMark c = false) :
    (c :: rest).takeWhile hostChar ≠ [] := by
  simp only [queryMark, Bool.or_eq_false_iff, decide_eq_false_iff_not] at query
  simp [hostChar, slash, query.1, query.2]

theorem stripped_run : ∃ run, foundRoute text = (foundRoute text).rdropWhile endingMark ++ run ∧
    ∀ c ∈ run, c = '.' ∨ c = ')' := by
  have whole := List.rdropWhile_append_rtakeWhile (p := endingMark) (l := foundRoute text)
  refine ⟨_, whole.symm, ?_⟩
  intro c member
  apply mark_cases c (List.mem_rtakeWhile_imp member)
  apply found_chars text
  rw [← whole]
  exact List.mem_append_right _ member

variable (normal : NormalForm otherHost text) (filled : foundRoute text ≠ [])

include normal filled

theorem normal_value : ∃ value, normalizeFound otherHost (foundRoute text) = some value ∧
    normalizeRoute otherHost (some value) = some value := by
  obtain ⟨value, own, stable⟩ := normal.stable
  rw [normalize_text, if_neg filled] at own
  exact ⟨value, own, stable⟩

theorem slash_added : normalizeFound otherHost ('/' :: foundRoute text) =
      normalizeFound otherHost (foundRoute text) := by
  obtain ⟨rest, shape⟩ := List.head?_eq_some_iff.mp (found_head text filled)
  have same := normal.repeated [] rest 1 shape
  have longer : [] ++ List.replicate (1 + 1) '/' ++ rest = '/' :: foundRoute text := by
    rw [shape]
    rfl
  have chars : ∀ c ∈ '/' :: foundRoute text, routeChar c = true :=
    List.forall_mem_cons.mpr ⟨rfl, found_chars text⟩
  rw [longer, normalize_edited otherHost text _ rfl chars, normalize_text, if_neg filled] at same
  exact same

theorem slash_behind : normalizeFound otherHost (foundRoute text ++ ['/']) =
      normalizeFound otherHost (foundRoute text) := by
  have same := normal.trailing filled
  have leads : (foundRoute text ++ ['/']).head? = some '/' := by
    rw [List.head?_append, found_head text filled]
    rfl
  rw [normalize_edited otherHost text _ leads (trailing_chars text), normalize_text,
    if_neg filled] at same
  exact same

theorem settled_root (stripped : (foundRoute text).rdropWhile endingMark = ['/']) :
    foundRoute text = ['/'] := by
  obtain ⟨run, whole, marks⟩ := stripped_run text
  rw [stripped, List.singleton_append] at whole
  by_contra other
  have some_ : run ≠ [] := by
    rintro rfl
    exact other whole
  have own : normalizeFound otherHost (foundRoute text) = some ['/'] :=
    normal_single otherHost _ [] stripped (by decide)
  have apart : '/' ∉ run := by
    intro member
    rcases marks _ member with same | same <;> cases same
  have query : ∀ c ∈ run ++ ['/'], queryMark c = false := by
    intro c member
    rcases List.mem_append.mp member with early | last
    · rcases marks c early with rfl | rfl <;> rfl
    · rw [List.mem_singleton.mp last]
      rfl
  have behind := slash_behind otherHost text normal filled
  rw [own, whole] at behind
  have first : (run ++ ['/']).head? ≠ some '/' := by
    obtain ⟨c, later, rfl⟩ := List.exists_cons_of_ne_nil some_
    intro same
    exact apart (Option.some_inj.mp same ▸ (.head _))
  rw [normal_single otherHost _ (run ++ ['/']) (strip_trailing ('/' :: run)) first,
    route_forms_slash, Option.some_inj] at behind
  have parts := congrArg (pathSegments '/') behind
  rw [segments_route_forms, routeForms, before_query_whole _ query, forms,
    segments_append '/' run [], segments_whole '/' run some_ apart] at parts
  cases parts

theorem settled_triple (triple : ['/', '/', '/'] <+: foundRoute text) :
    Ended (routeForms (foundRoute text)) := by
  obtain ⟨value, own, stable⟩ := normal_value otherHost text normal filled
  have behind := slash_behind otherHost text normal filled
  have slashed := strip_trailing (foundRoute text)
  have forms_ := forms_trailing (foundRoute text)
  obtain ⟨rest, shape⟩ := triple
  have whole : foundRoute text ++ ['/'] = '/' :: '/' :: '/' :: (rest ++ ['/']) := by
    rw [← shape]
    rfl
  rw [own, normal_triple otherHost _ (rest ++ ['/']) (slashed.trans whole),
    ← route_forms_slash, ← route_forms_slash, ← whole, forms_, Option.some_inj] at behind
  rw [← behind] at stable
  exact (normal_stable_iff otherHost (foundRoute text) (found_chars text)).mp stable

theorem settled_double (rest run : List Char)
    (shape : (foundRoute text).rdropWhile endingMark = '/' :: '/' :: rest)
    (whole : foundRoute text = '/' :: '/' :: rest ++ run)
    (marks : ∀ c ∈ run, c = '.' ∨ c = ')') : Settled (foundRoute text) := by
  have added := slash_added otherHost text normal filled
  have longer := strip_slash (foundRoute text) ('/' :: rest) shape
  cases rest with
  | nil => exact Or.inr (Or.inr (Or.inl ⟨run, whole, marks⟩))
  | cons c rest =>
    by_cases query : queryMark c = true
    · exact Or.inr (Or.inr (Or.inr (Or.inl ⟨c, _, query, Or.inr whole⟩)))
    rw [Bool.not_eq_true] at query
    by_cases slash : c = '/'
    · subst slash
      have triple : ['/', '/', '/'] <+: foundRoute text := ⟨rest ++ run, whole.symm⟩
      have ended := settled_triple otherHost text normal filled triple
      exact Or.inr (Or.inr (Or.inr (Or.inr ⟨triple, (ended_forms _).mp ended⟩)))
    · have host := host_filled c rest slash query
      exact absurd added.symm (host_lost otherHost _ _ (c :: rest) host
        (normal_triple otherHost _ _ longer) shape)

theorem settled_of_normal : Settled (foundRoute text) := by
  have added := slash_added otherHost text normal filled
  have first := rdrop_head endingMark (foundRoute text) '/' slash_unmarked (found_head text filled)
  obtain ⟨run, whole, marks⟩ := stripped_run text
  obtain ⟨rest, shape⟩ := List.head?_eq_some_iff.mp first
  have longer := strip_slash (foundRoute text) rest shape
  rw [shape, List.cons_append] at whole
  cases rest with
  | nil => exact Or.inr (Or.inl (settled_root otherHost text normal filled shape))
  | cons c rest =>
    by_cases query : queryMark c = true
    · exact Or.inr (Or.inr (Or.inr (Or.inl ⟨c, _, query, Or.inl whole⟩)))
    rw [Bool.not_eq_true] at query
    by_cases slash : c = '/'
    · subst slash
      exact settled_double otherHost text normal filled rest run shape whole marks
    · have alone : (c :: rest).head? ≠ some '/' := by simpa using slash
      exact absurd added (host_lost otherHost _ _ (c :: rest) (host_filled c rest slash query)
        (normal_single otherHost _ _ shape alone) longer)

end

variable (text : List Char)

theorem normal_of_settled (settled : Settled (foundRoute text)) : NormalForm otherHost text := by
  rcases settled with none_ | root | ⟨run, whole, marks⟩ | ⟨mark, rest, query, short⟩ |
    ⟨triple, ended⟩
  · exact normal_form_empty otherHost text none_
  · exact normal_form_root otherHost text root
  · exact normal_form_run otherHost text run whole marks
  · rcases short with single | double
    · exact normal_form_query otherHost text ['/'] rest mark query (by simp) (by simp) single
    · exact normal_form_query otherHost text ['/', '/'] rest mark query (by simp) (by simp) double
  · exact normal_form_triple otherHost text triple ((ended_forms _).mpr ended)

/-- Exactly the settled routes have a normal form that no edit changes: every other path is read as
a host once its first slash is doubled, or is cut where its last segment ends in a mark. -/
theorem normal_form_iff : NormalForm otherHost text ↔ Settled (foundRoute text) := by
  constructor
  · intro normal
    by_cases none_ : foundRoute text = []
    · exact Or.inl none_
    · exact settled_of_normal otherHost text normal none_
  · exact normal_of_settled otherHost text

/-- `/a` is `/a`, and `//a` is the root: the doubled slash makes its segment a host. -/
theorem doubled_slash_loses : ¬ ∀ (otherHost : List Char → Bool) (text : List Char),
    NormalForm otherHost text := by
  intro normal
  have same := (normal (fun _ => true) ['/', 'a']).repeated [] ['a'] 1 (by decide)
  revert same
  decide

end DosWeb.Benchmark
