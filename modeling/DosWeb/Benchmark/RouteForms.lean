import DosWeb.Benchmark.Matching

/-!
Which routes have a normal form: one that is its own, and that neither more slashes nor other names
of the variables change.
-/

namespace DosWeb.Benchmark

open Library Library.PathTexts

section

variable (text : List Char)

theorem drop_other (front : List Char) (plain : '/' ∉ front) (back : List Char) :
    (front ++ back).dropWhile (· ≠ '/') = back.dropWhile (· ≠ '/') := by
  apply List.dropWhile_append_of_pos
  intro c member
  exact decide_eq_true fun same => plain (same ▸ member)

theorem space_outside (c : Char) (space : Text.isSpace c = true) : routeChar c = false := by
  simp [routeChar, space]

theorem found_trailing (spaces : List Char) (all : ∀ c ∈ spaces, Text.isSpace c = true) :
    foundRoute (text ++ spaces) = foundRoute text := by
  have stopped : ∀ front : List Char,
      (front ++ spaces).takeWhile routeChar = front.takeWhile routeChar := by
    intro front
    induction front with
    | nil =>
      cases spaces with
      | nil => rfl
      | cons c spaces =>
        have other := space_outside c (all c (.head _))
        simp [other]
    | cons c front ih =>
      by_cases inside : routeChar c = true
      · simp [inside, ih]
      · simp [inside]
  induction text with
  | nil =>
    have plain : '/' ∉ spaces := by
      intro member
      have space := all '/' member
      revert space
      decide
    have none_ := drop_other spaces plain []
    rw [List.append_nil] at none_
    rw [foundRoute, List.nil_append, none_]
    rfl
  | cons c text ih =>
    by_cases slash : c = '/'
    · subst slash
      exact stopped ('/' :: text)
    · have skipped : ∀ rest : List Char,
          (c :: rest).dropWhile (· ≠ '/') = rest.dropWhile (· ≠ '/') :=
        fun rest => List.dropWhile_cons_of_pos (decide_eq_true slash)
      unfold foundRoute at ih ⊢
      rw [List.cons_append, skipped, skipped]
      exact ih

theorem found_strip : foundRoute (Text.strip text) = foundRoute text := by
  have leading : foundRoute (text.dropWhile Text.isSpace) = foundRoute text := by
    have whole := List.takeWhile_append_dropWhile (p := Text.isSpace) (l := text)
    have plain : '/' ∉ text.takeWhile Text.isSpace := by
      intro member
      have space := List.mem_takeWhile_imp member
      revert space
      decide
    conv_rhs => rw [← whole]
    rw [foundRoute, foundRoute, drop_other _ plain]
  rw [← leading, Text.strip]
  set own := text.dropWhile Text.isSpace
  have whole := List.takeWhile_append_dropWhile (p := Text.isSpace) (l := own.reverse)
  have parts : own = (own.reverse.dropWhile Text.isSpace).reverse ++
      (own.reverse.takeWhile Text.isSpace).reverse := by
    rw [← List.reverse_append, whole, List.reverse_reverse]
  conv_rhs => rw [parts]
  symm
  apply found_trailing
  intro c member
  exact List.mem_takeWhile_imp (List.mem_reverse.mp member)

/-- The text with another route in place of the one it has. -/
def editedText (route : List Char) : List Char :=
  text.takeWhile (· ≠ '/') ++ route ++ (text.dropWhile (· ≠ '/')).dropWhile routeChar

theorem found_whole (route back : List Char) (leads : route.head? = some '/')
    (all : ∀ c ∈ route, routeChar c = true) (stops : back.takeWhile routeChar = []) :
    foundRoute (route ++ back) = route := by
  obtain ⟨rest, shape⟩ := List.head?_eq_some_iff.mp leads
  have slash : (route ++ back).dropWhile (· ≠ '/') = route ++ back := by
    rw [shape]
    rfl
  rw [foundRoute, slash, List.takeWhile_append_of_pos all, stops, List.append_nil]

theorem found_edited (route : List Char) (leads : route.head? = some '/')
    (all : ∀ c ∈ route, routeChar c = true) : foundRoute (editedText text route) = route := by
  have plain : '/' ∉ text.takeWhile (· ≠ '/') := by
    intro member
    have other := List.mem_takeWhile_imp member
    simp at other
  have stops : ((text.dropWhile (· ≠ '/')).dropWhile routeChar).takeWhile routeChar = [] := by
    rw [List.takeWhile_eq_nil_iff]
    intro filled
    exact Bool.not_eq_true _ ▸ List.dropWhile_get_zero_not _ _ filled
  have own := found_whole route _ leads all stops
  rw [foundRoute] at own ⊢
  rw [editedText, List.append_assoc, drop_other _ plain]
  exact own

theorem found_chars : ∀ c ∈ foundRoute text, routeChar c = true :=
  fun _ member => List.mem_takeWhile_imp member

theorem found_head (filled : foundRoute text ≠ []) : (foundRoute text).head? = some '/' := by
  unfold foundRoute at filled ⊢
  cases shape : text.dropWhile (· ≠ '/') with
  | nil =>
    rw [shape] at filled
    exact absurd rfl filled
  | cons c rest =>
    have slash : c = '/' := by
      have first := List.head?_dropWhile_not (fun c => decide (c ≠ '/')) text
      rw [shape] at first
      simpa using first
    subst slash
    rfl

end

section

variable (otherHost : List Char → Bool)

variable (text : List Char)

theorem before_query : beforeQuery text = text.takeWhile fun c => c ≠ '#' && c ≠ '?' := by
  rw [beforeQuery, List.takeWhile_takeWhile]
  congr 1
  funext c
  simp [and_comm]

def queryMark (c : Char) : Bool := c = '?' || c = '#'

theorem before_query_append (front back : List Char) (plain : ∀ c ∈ front, queryMark c = false) :
    beforeQuery (front ++ back) = front ++ beforeQuery back := by
  rw [before_query, before_query, List.takeWhile_append_of_pos]
  intro c member
  have other := plain c member
  simp only [queryMark, Bool.or_eq_false_iff, decide_eq_false_iff_not] at other
  simp [other.1, other.2]

theorem before_query_mark (front back : List Char) (mark : Char) (query : queryMark mark = true) :
    beforeQuery (front ++ mark :: back) = beforeQuery front := by
  have stops : ∀ front : List Char,
      (front ++ mark :: back).takeWhile (fun c => c ≠ '#' && c ≠ '?') =
        front.takeWhile (fun c => c ≠ '#' && c ≠ '?') := by
    intro front
    induction front with
    | nil =>
      simp only [queryMark, Bool.or_eq_true, decide_eq_true_eq] at query
      rcases query with rfl | rfl <;> rfl
    | cons c front ih =>
      rw [List.cons_append, List.takeWhile_cons, List.takeWhile_cons, ih]
  rw [before_query, before_query, stops]

theorem before_query_plain : ∀ c ∈ beforeQuery text, queryMark c = false := by
  intro c member
  rw [before_query] at member
  have inside := List.mem_takeWhile_imp member
  simp only [ne_eq, Bool.and_eq_true, decide_eq_true_eq] at inside
  simp [queryMark, inside.1, inside.2]

theorem before_query_whole (plain : ∀ c ∈ text, queryMark c = false) : beforeQuery text = text := by
  have whole := before_query_append text [] plain
  rw [List.append_nil] at whole
  rw [whole]
  exact List.append_nil text

theorem query_cases : (∀ c ∈ text, queryMark c = false) ∨ ∃ front mark back, queryMark mark = true ∧
      text = front ++ mark :: back ∧ ∀ c ∈ front, queryMark c = false := by
  induction text with
  | nil => exact Or.inl nofun
  | cons c text ih =>
    by_cases own : queryMark c = true
    · exact Or.inr ⟨[], c, text, own, rfl, nofun⟩
    · rw [Bool.not_eq_true] at own
      rcases ih with plain | ⟨front, mark, back, query, rfl, plain⟩
      · exact Or.inl (List.forall_mem_cons.mpr ⟨own, plain⟩)
      · exact Or.inr ⟨c :: front, mark, back, query, rfl, List.forall_mem_cons.mpr ⟨own, plain⟩⟩

def routeForms (route : List Char) : List (List Char) := forms (beforeQuery route)

theorem before_query_slash : beforeQuery ('/' :: text) = '/' :: beforeQuery text :=
  before_query_append ['/'] text (List.forall_mem_singleton.mpr rfl)

theorem route_forms_slash : routeForms ('/' :: text) = routeForms text := by
  rw [routeForms, before_query_slash, forms, segments_cons]
  rfl

theorem normal_single (route rest : List Char)
    (shape : route.rdropWhile endingMark = '/' :: rest) (single : rest.head? ≠ some '/') :
    normalizeFound otherHost route = some (pathText '/' (routeForms ('/' :: rest))) := by
  have path : referencePath otherHost ('/' :: rest) = some (beforeQuery ('/' :: rest)) := by
    unfold referencePath
    split
    · rename_i same
      cases same
      exact absurd rfl single
    · rfl
  rw [normalizeFound, shape, path, Option.map_some, normalize_path_text _ (Or.inr ?_)]
  · rfl
  · rw [before_query_slash]
    rfl

theorem host_stops (rest : List Char) : beforeQuery (rest.dropWhile hostChar) = [] ∨
    (beforeQuery (rest.dropWhile hostChar)).head? = some '/' := by
  cases shape : rest.dropWhile hostChar with
  | nil => exact Or.inl rfl
  | cons c back =>
    have stop := List.head?_dropWhile_not hostChar rest
    rw [shape] at stop
    simp only [List.head?_cons, hostChar, Bool.and_eq_false_iff, bne_eq_false_iff_eq] at stop
    rcases stop with (rfl | rfl) | rfl
    · right
      rw [before_query_slash]
      rfl
    · exact Or.inl (before_query_mark [] back '?' rfl)
    · exact Or.inl (before_query_mark [] back '#' rfl)

theorem normal_double (route rest : List Char)
    (shape : route.rdropWhile endingMark = '/' :: '/' :: rest) : normalizeFound otherHost route =
      if acceptsHost otherHost (rest.takeWhile hostChar) then
        some (pathText '/' (routeForms (rest.dropWhile hostChar))) else none := by
  rw [normalizeFound, shape, referencePath]
  split
  · rw [Option.map_some, normalize_path_text _ (host_stops rest)]
    rfl
  · rfl

theorem empty_host : acceptsHost otherHost [] = true := rfl

theorem normal_triple (route rest : List Char)
    (shape : route.rdropWhile endingMark = '/' :: '/' :: '/' :: rest) :
    normalizeFound otherHost route = some (pathText '/' (routeForms ('/' :: rest))) := by
  have host : ('/' :: rest).takeWhile hostChar = [] := rfl
  have back : ('/' :: rest).dropWhile hostChar = '/' :: rest := rfl
  rw [normal_double otherHost route _ shape, host, back, empty_host, if_pos rfl]

end

section

variable {α : Type} (drops : α → Bool)

theorem rdrop_run (front run : List α) (all : ∀ c ∈ run, drops c = true) :
    (front ++ run).rdropWhile drops = front.rdropWhile drops := by
  rw [List.rdropWhile, List.reverse_append, List.dropWhile_append_of_pos]
  · rfl
  · exact fun c member => all c (List.mem_reverse.mp member)

theorem rdrop_stop (front run : List α) (c : α) (held : drops c = false) :
    (front ++ c :: run).rdropWhile drops = front ++ c :: run.rdropWhile drops := by
  induction run using List.reverseRecOn with
  | nil => exact List.rdropWhile_concat_neg _ _ _ (by simp [held])
  | append_singleton run d ih =>
    rw [← List.cons_append, ← List.append_assoc]
    by_cases dropped : drops d = true
    · rw [List.rdropWhile_concat_pos _ _ _ dropped, List.rdropWhile_concat_pos _ _ _ dropped, ih]
    · rw [List.rdropWhile_concat_neg _ _ _ dropped, List.rdropWhile_concat_neg _ _ _ dropped,
        List.append_assoc]
      rfl

/-- The last of the segments ends in none of the marks that are stripped from a route. -/
def Ended (parts : List (List Char)) : Prop :=
  ∀ last, parts.getLast? = some last → last.getLast? ≠ some '.' ∧ last.getLast? ≠ some ')'

theorem ended_forms (path : List Char) : Ended (forms path) ↔ Ended (pathSegments '/' path) := by
  unfold Ended forms
  rw [List.getLast?_map]
  constructor
  · intro ended last found
    have own := ended (withoutNames last) (by rw [found]; rfl)
    rw [renamed_last _ _ (renamed_self last)] at own
    exact own
  · intro ended after found
    obtain ⟨last, inside, rfl⟩ := Option.map_eq_some_iff.mp found
    rw [renamed_last _ _ (renamed_self last)]
    exact ended last inside

theorem mark_cases (c : Char) (mark : endingMark c = true) (route : routeChar c = true) :
    c = '.' ∨ c = ')' := by
  simp only [endingMark, Bool.or_eq_true, decide_eq_true_eq] at mark
  rcases mark with (rfl | rfl) | rfl
  · exact Or.inl rfl
  · revert route
    decide
  · exact Or.inr rfl

theorem forms_stripped (rest : List Char) (all : ∀ c ∈ rest, routeChar c = true)
    (ended : Ended (routeForms rest)) :
    routeForms (rest.rdropWhile endingMark) = routeForms rest := by
  rcases query_cases rest with plain | ⟨front, mark, back, query, rfl, -⟩
  · cases rest using List.reverseRecOn with
    | nil => rfl
    | append_singleton rest c =>
      by_cases mark : endingMark c = true
      · have own := mark_cases c mark (all c (by simp))
        have other : c ≠ '/' := by
          rintro rfl
          revert mark
          decide
        obtain ⟨last, found, ends_⟩ := segments_last '/' rest c other
        rw [routeForms, before_query_whole _ plain, ended_forms] at ended
        have apart := ended last found
        rw [ends_] at apart
        rcases own with rfl | rfl
        · exact absurd rfl apart.1
        · exact absurd rfl apart.2
      · rw [List.rdropWhile_concat_neg _ _ _ mark]
  · have held : endingMark mark = false := by
      simp only [queryMark, Bool.or_eq_true, decide_eq_true_eq] at query
      rcases query with rfl | rfl <;> rfl
    rw [rdrop_stop _ front back mark held, routeForms, routeForms, before_query_mark _ _ _ query,
      before_query_mark _ _ _ query]

end

variable (otherHost : List Char → Bool)

theorem forms_slashes (lead rest : List Char) (slashes : ∀ c ∈ lead, c = '/') :
    routeForms (lead ++ rest) = routeForms rest := by
  induction lead with
  | nil => rfl
  | cons c lead ih =>
    rw [slashes c (.head _), List.cons_append, route_forms_slash]
    exact ih fun d member => slashes d (.tail _ member)

theorem normal_root (route lead rest : List Char) (filled : lead ≠ [])
    (slashes : ∀ c ∈ lead, c = '/') (shape : route.rdropWhile endingMark = lead ++ rest)
    (open_ : rest = [] ∨ ∃ mark back, queryMark mark = true ∧ rest = mark :: back) :
    normalizeFound otherHost route = some ['/'] := by
  have root : routeForms rest = [] := by
    rcases open_ with rfl | ⟨mark, back, query, rfl⟩
    · rfl
    · rw [routeForms, show mark :: back = [] ++ mark :: back from rfl,
        before_query_mark [] back mark query]
      rfl
  have all := forms_slashes lead rest slashes
  rw [root] at all
  have other : rest.head? ≠ some '/' := by
    rcases open_ with rfl | ⟨mark, back, query, rfl⟩
    · exact fun none_ => by cases none_
    · rintro same
      rw [List.head?_cons, Option.some_inj] at same
      rw [same] at query
      revert query
      decide
  match lead, filled with
  | [c], _ =>
    rw [slashes c (.head _)] at shape all
    rw [normal_single otherHost route rest shape other]
    exact congrArg (fun parts => some (pathText '/' parts)) all
  | [c, d], _ =>
    rw [slashes c (.head _), slashes d (by simp)] at shape
    have host : rest.takeWhile hostChar = [] := by
      rcases open_ with rfl | ⟨mark, back, query, rfl⟩
      · rfl
      · simp only [queryMark, Bool.or_eq_true, decide_eq_true_eq] at query
        rcases query with rfl | rfl <;> rfl
    have back := List.takeWhile_append_dropWhile (p := hostChar) (l := rest)
    rw [host, List.nil_append] at back
    rw [normal_double otherHost route rest shape, host, empty_host, if_pos rfl, back, root]
    rfl
  | c :: d :: e :: lead, _ =>
    have more : ∀ f ∈ lead, f = '/' := fun f member => slashes f (by simp [member])
    rw [slashes c (.head _), slashes d (by simp), slashes e (by simp)] at shape
    rw [normal_triple otherHost route (lead ++ rest) shape, route_forms_slash,
      forms_slashes lead rest more, root]
    rfl

theorem slash_unmarked : endingMark '/' = false := rfl

theorem normal_run (lead run : List Char) (filled : lead ≠ []) (slashes : ∀ c ∈ lead, c = '/')
    (marks : ∀ c ∈ run, endingMark c = true) :
    normalizeFound otherHost (lead ++ run) = some ['/'] := by
  have kept : (lead ++ run).rdropWhile endingMark = lead ++ [] := by
    rw [rdrop_run _ lead run marks, List.append_nil, List.rdropWhile_eq_self_iff]
    intro some_
    rw [slashes _ (List.getLast_mem some_)]
    decide
  exact normal_root otherHost _ lead [] filled slashes kept (Or.inl rfl)

theorem normal_query (lead rest : List Char) (mark : Char) (filled : lead ≠ [])
    (slashes : ∀ c ∈ lead, c = '/') (query : queryMark mark = true) :
    normalizeFound otherHost (lead ++ mark :: rest) = some ['/'] := by
  have held : endingMark mark = false := by
    simp only [queryMark, Bool.or_eq_true, decide_eq_true_eq] at query
    rcases query with rfl | rfl <;> rfl
  exact normal_root otherHost _ lead _ filled slashes (rdrop_stop _ lead rest mark held)
    (Or.inr ⟨mark, _, query, rfl⟩)

theorem normal_host (run : List Char) (marks : ∀ c ∈ run, c = '.' ∨ c = ')') :
    normalizeFound otherHost ('/' :: '/' :: run ++ ['/']) = some ['/'] := by
  have kept : ('/' :: '/' :: run ++ ['/']).rdropWhile endingMark = '/' :: '/' :: (run ++ ['/']) :=
    rdrop_stop _ ('/' :: '/' :: run) [] '/' slash_unmarked
  have inside : ∀ c ∈ run, hostChar c = true := by
    intro c member
    rcases marks c member with rfl | rfl <;> rfl
  have host : (run ++ ['/']).takeWhile hostChar = run := by
    rw [List.takeWhile_append_of_pos inside]
    exact List.append_nil run
  have back : (run ++ ['/']).dropWhile hostChar = ['/'] := by
    rw [List.dropWhile_append_of_pos inside]
    rfl
  have accepted : acceptsHost otherHost run = true := by
    rw [acceptsHost, Bool.or_eq_true]
    left
    rw [List.all_eq_true]
    intro c member
    rcases marks c member with rfl | rfl <;> rfl
  rw [normal_double otherHost _ _ kept, host, back, accepted, if_pos rfl]
  rfl

theorem normal_ended (route : List Char) (triple : ['/', '/', '/'] <+: route)
    (all : ∀ c ∈ route, routeChar c = true) (ended : Ended (routeForms route)) :
    normalizeFound otherHost route = some (pathText '/' (routeForms route)) := by
  obtain ⟨rest, rfl⟩ := triple
  have slashes := forms_slashes ['/', '/', '/'] rest (by simp)
  have kept : (['/', '/', '/'] ++ rest).rdropWhile endingMark =
      '/' :: '/' :: '/' :: rest.rdropWhile endingMark :=
    rdrop_stop _ ['/', '/'] rest '/' slash_unmarked
  rw [slashes] at ended ⊢
  rw [normal_triple otherHost _ _ kept, route_forms_slash, forms_stripped rest _ ended]
  exact fun c member => all c (List.mem_append_right _ member)

end DosWeb.Benchmark
