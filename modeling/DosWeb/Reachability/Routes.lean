import DosWeb.Entries.Canonical
import DosWeb.Library.PathTexts

/-!
The routes that the matcher of a security row binds: a matcher names a path, the paths one
segment below it, or a path and everything below it.
-/

namespace DosWeb.Reachability

open Library Library.PathTexts
open Entries (upperMethod joinSegments)

def routeMethods : List String := ["GET", "POST", "PUT", "DELETE", "PATCH", "HEAD", "OPTIONS"]

def withoutMethod (value : List Char) : List Char :=
  match Text.partition ' ' value with
  | some (head, rest) => if String.ofList head ∈ routeMethods then rest else value
  | none => value

def barePath (route : String) : List Char := withoutMethod (Text.strip route.toList)

def routePath (route : String) : List Char :=
  let value := collapsed '/' (barePath route)
  if value.length > 1 then trimmed '/' value else value

def routeMatches (matcher route : String) : Bool :=
  if matcher ∈ ["", "dynamic_matcher", "*"] then false
  else
    let expected := routePath matcher
    let actual := routePath route
    if ['/', '*', '*'].isSuffixOf expected then
      let lead := trimmed '/' (expected.take (expected.length - 3))
      actual = lead || (lead ++ ['/']).isPrefixOf actual
    else if ['/', '*'].isSuffixOf expected then
      let lead := trimmed '/' (expected.take (expected.length - 2))
      (lead ++ ['/']).isPrefixOf actual && !(actual.drop (lead.length + 1)).contains '/'
    else expected = actual

def routeSegments (route : String) : List (List Char) := pathSegments '/' (Text.strip route.toList)

/-- The pattern a matcher writes down, behind a method or not; one without a path has none. -/
def matcherPattern (matcher : String) : Option (PathPattern (List Char)) :=
  if (barePath matcher).head? = some '/' then
    some (patternOf ['*'] ['*', '*'] (pathSegments '/' (barePath matcher)))
  else none

def Binds (matcher path : String) : Prop :=
  ∃ pattern, matcherPattern matcher = some pattern ∧ pattern.Matches (routeSegments path)

def canonicalPath (path : List Char) : String := String.ofList (joinSegments path)

theorem route_path_text (route : String) (leads : (barePath route).head? = some '/') :
    routePath route = pathText '/' (pathSegments '/' (barePath route)) :=
  collapsed_path_text '/' (barePath route) leads

theorem route_path_other (route : String) (other : (barePath route).head? ≠ some '/') :
    (routePath route).head? ≠ some '/' := by
  have first := collapsed_head '/' (barePath route)
  unfold routePath
  dsimp only
  rw [← first] at other
  split
  · cases found : (collapsed '/' (barePath route)).head? with
    | none =>
      rw [List.head?_eq_none_iff.mp found]
      decide
    | some c =>
      rw [found] at other
      have same : c ≠ '/' := fun equal => other (congrArg some equal)
      rw [trimmed_head '/' _ c same found]
      exact other
  · exact other

theorem route_path_first (route : String) (c : Char) (other : c ≠ '/')
    (first : (barePath route).head? = some c) : (routePath route).head? = some c := by
  have kept := collapsed_head '/' (barePath route)
  rw [first] at kept
  unfold routePath
  dsimp only
  split
  · exact trimmed_head '/' _ c other kept
  · exact kept

theorem path_text_head (parts : List (List Char)) : (pathText '/' parts).head? = some '/' := by
  unfold pathText
  split
  · rfl
  · rename_i some_
    obtain ⟨part, rest, shape⟩ := List.exists_cons_of_ne_nil some_
    rw [shape]
    rfl

theorem take_before (front ending : List Char) (count : Nat) (size : ending.length = count) :
    (front ++ ending).take ((front ++ ending).length - count) = front := by
  rw [List.length_append, size, Nat.add_sub_cancel, List.take_left]

theorem other_unmatched (matcher path : String) (other : (routePath matcher).head? ≠ some '/')
    (leads : (routePath path).head? = some '/') : routeMatches matcher path = false := by
  obtain ⟨rest, actual⟩ := List.head?_eq_some_iff.mp leads
  have lead_other : ∀ ending : List Char, '/' :: ending <:+ routePath matcher →
      ∀ count, ('/' :: ending).length = count →
        ∃ c, c ≠ '/' ∧ (trimmed '/' ((routePath matcher).take
          ((routePath matcher).length - count))).head? = some c := by
    rintro ending ⟨front, whole⟩ count size
    rw [← whole, take_before front _ count size]
    cases front with
    | nil =>
      rw [← whole] at other
      exact absurd rfl other
    | cons c front =>
      have plain : c ≠ '/' := by
        intro same
        rw [← whole, same] at other
        exact other rfl
      exact ⟨c, plain, trimmed_head '/' _ c plain rfl⟩
  unfold routeMatches
  split
  · rfl
  · rw [actual]
    dsimp only
    split
    · rename_i ends
      obtain ⟨c, plain, first⟩ := lead_other _ (List.isSuffixOf_iff_suffix.mp ends) 3 rfl
      obtain ⟨tail, lead⟩ := List.head?_eq_some_iff.mp first
      rw [lead]
      have apart : (c == '/') = false := beq_eq_false_iff_ne.mpr plain
      have differs : '/' ≠ c := Ne.symm plain
      simp [List.isPrefixOf, apart, differs]
    · split
      · rename_i ends
        obtain ⟨c, plain, first⟩ := lead_other _ (List.isSuffixOf_iff_suffix.mp ends) 2 rfl
        obtain ⟨tail, lead⟩ := List.head?_eq_some_iff.mp first
        have apart : (c == '/') = false := beq_eq_false_iff_ne.mpr plain
        rw [lead]
        simp [List.isPrefixOf, apart]
      · rw [decide_eq_false_iff_not]
        intro same
        rw [same] at other
        exact other rfl

theorem tail_after (lead : List Char) (actual : List Char) :
    ((lead ++ ['/']).isPrefixOf actual && !(actual.drop (lead.length + 1)).contains '/') = true ↔
      ∃ tail, actual = lead ++ '/' :: tail ∧ '/' ∉ tail := by
  rw [Bool.and_eq_true, List.isPrefixOf_iff_prefix, Bool.not_eq_true', List.contains_eq_mem,
    decide_eq_false_iff_not]
  constructor
  · rintro ⟨⟨tail, rfl⟩, plain⟩
    refine ⟨tail, by simp, ?_⟩
    rw [List.drop_left' (by simp)] at plain
    exact plain
  · rintro ⟨tail, rfl, plain⟩
    refine ⟨⟨tail, by simp⟩, ?_⟩
    rw [show lead ++ '/' :: tail = (lead ++ ['/']) ++ tail by simp, List.drop_left' (by simp)]
    exact plain

theorem lead_text (parts : List (List Char)) (plain : Plain '/' parts) (last : List Char)
    (found : parts.getLast? = some last) (count : Nat) (size : ('/' :: last).length = count) :
    trimmed '/' ((pathText '/' parts).take ((pathText '/' parts).length - count)) =
      rendered '/' parts.dropLast := by
  have shape := (List.dropLast_append_getLast? last found).symm
  have some_ : parts ≠ [] := by
    intro none_
    rw [none_] at found
    cases found
  have text : pathText '/' parts = rendered '/' parts.dropLast ++ '/' :: last := by
    conv_lhs => rw [path_text_plain_rendered '/' parts some_, shape]
    exact rendered_concat '/' _ _
  rw [text, take_before _ _ count size]
  exact trimmed_rendered '/' _ fun part member => plain part (List.dropLast_subset _ member)

theorem path_unmatched (matcher route : String) (written : (barePath matcher).head? = some '/')
    (c : Char) (other : c ≠ '/') (first : (routePath route).head? = some c) :
    routeMatches matcher route = false := by
  have expected := route_path_text matcher written
  have plain := segments_plain '/' (barePath matcher)
  obtain ⟨rest, actual⟩ := List.head?_eq_some_iff.mp first
  have apart : ('/' == c) = false := beq_eq_false_iff_ne.mpr (Ne.symm other)
  have beside : ∀ tail, ('/' :: tail).isPrefixOf (c :: rest) = false := by
    intro tail
    rw [List.isPrefixOf_cons_cons, apart, Bool.false_and]
  have below : ∀ parts : List (List Char), (c :: rest ≠ rendered '/' parts) ∧
        (rendered '/' parts ++ ['/']).isPrefixOf (c :: rest) = false := by
    intro parts
    cases parts with
    | nil => exact ⟨List.cons_ne_nil _ _, beside []⟩
    | cons part parts =>
      refine ⟨?_, beside _⟩
      intro same
      exact other (List.head_eq_of_cons_eq same)
  unfold routeMatches
  split
  · rfl
  · rw [actual, expected]
    dsimp only
    split
    · rename_i ends
      have found := (ends_with_iff '/' _ plain ['*', '*'] (by decide) (by decide)).mp
        (List.isSuffixOf_iff_suffix.mp ends)
      rw [lead_text _ plain _ found 3 rfl, (below _).2, decide_eq_false (below _).1]
      rfl
    · split
      · rename_i ends
        have found := (ends_with_iff '/' _ plain ['*'] (by decide) (by decide)).mp
          (List.isSuffixOf_iff_suffix.mp ends)
        rw [lead_text _ plain _ found 2 rfl, (below _).2]
        rfl
      · rw [decide_eq_false_iff_not, ← expected, ← actual]
        intro same
        have slash := path_text_head (pathSegments '/' (barePath matcher))
        rw [← expected, same, first] at slash
        exact other (Option.some_inj.mp slash)

/-- Among paths, the matcher decides as its pattern does, but for the children of the root. -/
theorem path_matches_iff (matcher path : String) (leads : (barePath path).head? = some '/')
    (segments : pathSegments '/' (barePath path) = routeSegments path) :
    routeMatches matcher path = true ↔ Binds matcher path ∨
      (matcherPattern matcher = some (.children []) ∧ routeSegments path = []) := by
  have actual := route_path_text path leads
  have plainActual := segments_plain '/' (barePath path)
  rw [segments] at actual plainActual
  unfold Binds matcherPattern
  by_cases written : (barePath matcher).head? = some '/'
  · have expected := route_path_text matcher written
    have plain := segments_plain '/' (barePath matcher)
    simp only [if_pos written, Option.some_inj, exists_eq_left']
    generalize pathSegments '/' (barePath matcher) = parts at expected plain ⊢
    have fixed : matcher ∉ ["", "dynamic_matcher", "*"] := by
      intro listed
      simp only [List.mem_cons, List.not_mem_nil, or_false] at listed
      rcases listed with rfl | rfl | rfl
      · exact absurd written (by decide)
      · exact absurd written (by decide)
      · exact absurd written (by decide)
    have lead : Plain '/' parts.dropLast :=
      fun part member => plain part (List.dropLast_subset _ member)
    unfold routeMatches patternOf
    rw [if_neg fixed, expected, actual]
    dsimp only
    have several := ends_with_iff '/' parts plain ['*', '*'] (by decide) (by decide)
    have one := ends_with_iff '/' parts plain ['*'] (by decide) (by decide)
    rw [← List.isSuffixOf_iff_suffix] at several one
    by_cases below : parts.getLast? = some ['*', '*']
    · rw [if_pos (several.mpr below), if_pos below, lead_text parts plain _ below 3 rfl,
        Bool.or_eq_true, decide_eq_true_eq, List.isPrefixOf_iff_prefix,
        subtree_iff '/' _ _ lead plainActual]
      simp [PathPattern.Matches]
    · rw [if_neg (fun ends => below (several.mp ends)), if_neg below]
      by_cases child : parts.getLast? = some ['*']
      · rw [if_pos (one.mpr child), if_pos child, lead_text parts plain _ child 2 rfl, tail_after,
          children_iff '/' _ _ lead plainActual]
        simp [PathPattern.Matches]
      · rw [if_neg (fun ends => child (one.mp ends)), if_neg child, decide_eq_true_eq]
        simp only [PathPattern.Matches, reduceCtorEq, false_and, or_false]
        constructor
        · intro same
          exact (path_text_inj '/' _ _ plain plainActual same).symm
        · intro same
          rw [same]
  · have other := route_path_other matcher written
    have first : (routePath path).head? = some '/' := by
      rw [actual]
      exact path_text_head _
    simp [if_neg written, other_unmatched matcher path other first]

theorem strip_solid (lead tail : List Char) (c d : Char) (first : lead.head? = some c)
    (later : tail.head? = some d) (solid : Text.isSpace c = false)
    (solidTail : Text.isSpace d = false) : Text.strip (lead ++ tail) = lead ++ Text.strip tail := by
  obtain ⟨leadRest, rfl⟩ := List.head?_eq_some_iff.mp first
  obtain ⟨tailRest, rfl⟩ := List.head?_eq_some_iff.mp later
  have some_ : (d :: tailRest).reverse.dropWhile Text.isSpace ≠ [] := by
    intro none_
    have all := List.dropWhile_eq_nil_iff.mp none_ d (by simp)
    rw [solidTail] at all
    cases all
  unfold Text.strip
  rw [List.cons_append, List.dropWhile_cons_of_neg (by simp [solid]),
    List.dropWhile_cons_of_neg (by simp [solidTail]), ← List.cons_append, List.reverse_append,
    List.dropWhile_append, if_neg (by simpa using some_), List.reverse_append, List.reverse_reverse]

theorem strip_head (text : List Char) (c : Char) (first : text.head? = some c)
    (solid : Text.isSpace c = false) : (Text.strip text).head? = some c := by
  obtain ⟨rest, rfl⟩ := List.head?_eq_some_iff.mp first
  unfold Text.strip
  rw [List.dropWhile_cons_of_neg (by simp [solid])]
  exact rdrop_head _ (c :: rest) c solid rfl

theorem canonical_head (path : List Char) : (canonicalPath path).toList.head? = some '/' := by
  rw [canonicalPath, String.toList_ofList]
  rfl

theorem without_method_path (rest : List Char) : withoutMethod ('/' :: rest) = '/' :: rest := by
  unfold withoutMethod
  cases cut : Text.partition ' ' ('/' :: rest) with
  | none => rfl
  | some parts =>
    obtain ⟨head, tail⟩ := parts
    have shape := Text.partition_shape ' ' _ _ _ cut
    dsimp only
    rw [if_neg]
    intro listed
    cases head with
    | nil => exact absurd (List.head_eq_of_cons_eq shape) (by decide)
    | cons c head =>
      have same : c = '/' := (List.head_eq_of_cons_eq shape).symm
      have plain : ∀ name ∈ routeMethods, name.toList.head? ≠ some '/' := by decide
      apply plain _ listed
      rw [String.toList_ofList, same]
      rfl

theorem canonical_bare (path : List Char) :
    barePath (canonicalPath path) = Text.strip (canonicalPath path).toList := by
  obtain ⟨rest, shape⟩ := List.head?_eq_some_iff.mp
    (strip_head _ '/' (canonical_head path) (by decide))
  rw [barePath, shape, without_method_path]

theorem method_texts : ∀ name ∈ routeMethods, ' ' ∉ name.toList ∧
    ∃ c, name.toList.head? = some c ∧ Text.isSpace c = false := by
  intro name listed
  simp only [routeMethods, List.mem_cons, List.not_mem_nil, or_false] at listed
  rcases listed with rfl | rfl | rfl | rfl | rfl | rfl | rfl
  all_goals exact ⟨by decide, _, rfl, by decide⟩

theorem join_method (name : String) (path : List Char) :
    (name ++ " " ++ canonicalPath path).toList =
      name.toList ++ ' ' :: (canonicalPath path).toList := by
  rw [String.toList_append, String.toList_append, List.append_assoc]
  rfl

theorem strip_method (name : List Char) (c : Char) (first : name.head? = some c)
    (solid : Text.isSpace c = false) (path : List Char) :
    Text.strip (name ++ ' ' :: (canonicalPath path).toList) =
      name ++ ' ' :: Text.strip (canonicalPath path).toList := by
  obtain ⟨rest, rfl⟩ := List.head?_eq_some_iff.mp first
  have parted := strip_solid ((c :: rest) ++ [' ']) (canonicalPath path).toList c '/' rfl
    (canonical_head path) solid (by decide)
  rw [List.append_assoc, List.append_assoc] at parted
  exact parted

theorem bare_method (name : String) (listed : name ∈ routeMethods) (path : List Char) :
    barePath (name ++ " " ++ canonicalPath path) = Text.strip (canonicalPath path).toList := by
  obtain ⟨plain, c, first, solid⟩ := method_texts name listed
  rw [barePath, join_method, strip_method name.toList c first solid path, withoutMethod,
    Text.partition_append ' ' _ _ plain]
  dsimp only
  rw [String.ofList_toList, if_pos listed]

theorem matches_same (matcher left right : String) (same : barePath left = barePath right) :
    routeMatches matcher left = routeMatches matcher right := by
  unfold routeMatches routePath
  rw [same]

theorem upper_kept (c : Char) (kind : Text.isSpace c = true ∨ c = '/') :
    (Entries.upperExpansions.lookup c.toNat).getD [c.toUpper] = [c] := by
  have code : c.toNat < 97 ∨ c.toNat = 0x85 ∨ c.toNat = 0xa0 ∨ c.toNat = 0x1680 ∨
      (0x2000 ≤ c.toNat ∧ c.toNat ≤ 0x200a) ∨ c.toNat = 0x2028 ∨ c.toNat = 0x2029 ∨
      c.toNat = 0x202f ∨ c.toNat = 0x205f ∨ c.toNat = 0x3000 := by
    rcases kind with space | rfl
    · simp only [Text.isSpace, Text.numberSpace, Bool.or_eq_true, Bool.and_eq_true,
        decide_eq_true_eq, List.contains_eq_mem, List.mem_cons, List.not_mem_nil, or_false] at space
      omega
    · decide
  have absent : Entries.upperExpansions.lookup c.toNat = none := by
    rw [List.lookup_eq_none_iff]
    intro pair member
    have bounds : ∀ pair ∈ Entries.upperExpansions,
        pair.1 ∈ [0xdf, 0x131, 0x17f, 0xfb00, 0xfb01, 0xfb02, 0xfb03, 0xfb04, 0xfb05, 0xfb06] := by
      decide
    have listed := bounds pair member
    simp only [List.mem_cons, List.not_mem_nil, or_false] at listed
    rw [bne_iff_ne]
    omega
  have small : ¬ ('a'.val ≤ c.val ∧ c.val ≤ 'z'.val) := by
    rintro ⟨low, high⟩
    have lower : 97 ≤ c.toNat := UInt32.le_iff_toNat_le.mp low
    have upper : c.toNat ≤ 122 := UInt32.le_iff_toNat_le.mp high
    omega
  have upper : c.toUpper = c := dif_neg small
  rw [absent, Option.getD_none, upper]

theorem method_characters : ∀ name ∈ Entries.httpMethods, ∀ c ∈ name.toList,
    Text.isSpace c = false ∧ c ≠ '/' := by
  intro name listed c member
  have range : 65 ≤ c.toNat ∧ c.toNat ≤ 90 := by
    have letters : ∀ text ∈ Entries.httpMethods,
        text.toList.all (fun c => 65 ≤ c.toNat && c.toNat ≤ 90) = true := by
      intro text known
      simp only [Entries.httpMethods, List.mem_cons, List.not_mem_nil, or_false] at known
      rcases known with rfl | rfl | rfl | rfl | rfl | rfl | rfl | rfl | rfl <;> rfl
    have own := List.all_eq_true.mp (letters name listed) c member
    simpa using own
  constructor
  · rw [Bool.eq_false_iff]
    intro space
    simp only [Text.isSpace, Text.numberSpace, Bool.or_eq_true, Bool.and_eq_true,
      decide_eq_true_eq, List.contains_eq_mem, List.mem_cons, List.not_mem_nil, or_false] at space
    omega
  · rintro rfl
    exact absurd range.1 (by decide)

/-- The characters of a text that is a method in upper case are neither blanks nor slashes. -/
theorem method_solid (head : List Char) (name : String) (found : upperMethod head = some name)
    (c : Char) (member : c ∈ head) : Text.isSpace c = false ∧ c ≠ '/' := by
  by_contra blank
  have kind : Text.isSpace c = true ∨ c = '/' := by
    rcases not_and_or.mp blank with space | slash
    · exact Or.inl (Bool.eq_true_of_not_eq_false space)
    · exact Or.inr (not_not.mp slash)
  have listed := Entries.upper_method_listed head name found
  have kept : c ∈ (Entries.upperText head).toList := by
    rw [Entries.upperText, String.toList_ofList, List.mem_flatMap]
    refine ⟨c, member, ?_⟩
    rw [upper_kept c kind]
    exact List.mem_singleton_self c
  rw [Entries.upper_method_eq] at found
  split at found
  · rw [Option.some_inj.mp found] at kept
    exact blank (method_characters name listed c kept)
  · cases found

theorem bare_kept (method name : String) (found : upperMethod method.toList = some name)
    (kept : method ∉ routeMethods) (path : List Char) :
    ∃ c, c ≠ '/' ∧ (barePath (method ++ " " ++ canonicalPath path)).head? = some c := by
  have solid := method_solid method.toList name found
  cases shape : method.toList with
  | nil =>
    have none_ : upperMethod [] = none := by decide
    rw [shape, none_] at found
    cases found
  | cons c rest =>
    have own := solid c (shape ▸ (.head _))
    have plain : ' ' ∉ method.toList := by
      intro member
      exact absurd (solid ' ' member).1 (by decide)
    have first : method.toList.head? = some c := by rw [shape]; rfl
    refine ⟨c, own.2, ?_⟩
    rw [barePath, join_method, strip_method method.toList c first own.1 path, withoutMethod,
      Text.partition_append ' ' _ _ plain]
    dsimp only
    rw [String.ofList_toList, if_neg kept, shape]
    rfl

theorem canonical_bare_head (path : List Char) :
    (barePath (canonicalPath path)).head? = some '/' := by
  rw [canonical_bare]
  exact strip_head _ '/' (canonical_head path) (by decide)

theorem binds_self (path : List Char) : Binds (canonicalPath path) (canonicalPath path) := by
  refine ⟨_, if_pos (canonical_bare_head path), ?_⟩
  rw [canonical_bare]
  exact pattern_self _ _ _

theorem own_path_bound (path : List Char) :
    routeMatches (canonicalPath path) (canonicalPath path) = true :=
  (path_matches_iff _ _ (canonical_bare_head path) (congrArg _ (canonical_bare path))).mpr
    (Or.inl (binds_self path))

/-- A method in front of every path is ignored exactly where it is among those that are dropped. -/
theorem method_ignored_iff (method name : String) (found : upperMethod method.toList = some name)
    (path : List Char) : (∀ matcher, routeMatches matcher (method ++ " " ++ canonicalPath path) =
      routeMatches matcher (canonicalPath path)) ↔ method ∈ routeMethods := by
  constructor
  · intro same
    by_contra kept
    have whole := own_path_bound path
    obtain ⟨c, plain, first⟩ := bare_kept method name found kept path
    have unbound := path_unmatched _ _ (canonical_bare_head path) c plain
      (route_path_first _ c plain first)
    rw [← same (canonicalPath path), unbound] at whole
    cases whole
  · intro listed matcher
    apply matches_same
    rw [bare_method method listed path, canonical_bare]

theorem path_binds_iff (matcher : String) (path : List Char) :
    (routeMatches matcher (canonicalPath path) = true ↔ Binds matcher (canonicalPath path)) ↔
      ¬ (matcherPattern matcher = some (.children []) ∧
        routeSegments (canonicalPath path) = []) := by
  rw [path_matches_iff matcher _ (canonical_bare_head path) (congrArg _ (canonical_bare path))]
  constructor
  · rintro agree ⟨written, root⟩
    obtain ⟨pattern, found, below⟩ := agree.mp (Or.inr ⟨written, root⟩)
    have same : pattern = .children [] := Option.some_inj.mp (found.symm.trans written)
    rw [same, root] at below
    obtain ⟨last, shape⟩ := below
    cases shape
  · intro other
    exact or_iff_left other

def PathLead (lead : String) : Prop := lead = "" ∨ lead.toList.head? = some '/'

theorem lead_bare (lead ending : String) (written : PathLead lead)
    (slash : ending.toList.head? = some '/') (c : Char) (last : ending.toList.getLast? = some c)
    (solid : Text.isSpace c = false) : barePath (lead ++ ending) = (lead ++ ending).toList ∧
      (lead ++ ending).toList.head? = some '/' := by
  have first : (lead ++ ending).toList.head? = some '/' := by
    rw [String.toList_append]
    rcases written with rfl | leads
    · exact slash
    · obtain ⟨rest, shape⟩ := List.head?_eq_some_iff.mp leads
      rw [shape]
      rfl
  have ended : (lead ++ ending).toList.reverse.head? = some c := by
    have shape := (List.dropLast_append_getLast? c last).symm
    rw [String.toList_append, shape]
    simp
  obtain ⟨rest, shape⟩ := List.head?_eq_some_iff.mp first
  obtain ⟨front, reversed⟩ := List.head?_eq_some_iff.mp ended
  have stripped : Text.strip (lead ++ ending).toList = (lead ++ ending).toList := by
    rw [Text.strip, shape, List.dropWhile_cons_of_neg (by decide), ← shape, reversed,
      List.dropWhile_cons_of_neg (by simp [solid]), ← reversed, List.reverse_reverse]
  refine ⟨?_, first⟩
  rw [barePath, stripped, shape, without_method_path]

theorem lead_patterns (lead : String) (written : PathLead lead) :
    matcherPattern (lead ++ "/**") = some (.subtree (pathSegments '/' lead.toList)) ∧
      matcherPattern (lead ++ "/*") = some (.children (pathSegments '/' lead.toList)) := by
  constructor
  · obtain ⟨bare, first⟩ := lead_bare lead "/**" written rfl '*' rfl (by decide)
    rw [matcherPattern, bare, if_pos first, String.toList_append]
    have cut := segments_append '/' lead.toList ['*', '*']
    rw [segments_whole '/' ['*', '*'] (by decide) (by decide)] at cut
    exact congrArg some ((congrArg _ cut).trans (pattern_subtree _ _ _))
  · obtain ⟨bare, first⟩ := lead_bare lead "/*" written rfl '*' rfl (by decide)
    rw [matcherPattern, bare, if_pos first, String.toList_append]
    have cut := segments_append '/' lead.toList ['*']
    rw [segments_whole '/' ['*'] (by decide) (by decide)] at cut
    exact congrArg some ((congrArg _ cut).trans (pattern_children _ _ _ (by decide)))

/-- When the methods of routes are ignored, and when a matcher binds the paths of its pattern. -/
theorem route_binding_iff (method name matcher lead : String) (path : List Char)
    (found : upperMethod method.toList = some name) (written : PathLead lead) :
    ((∀ other, routeMatches other (method ++ " " ++ canonicalPath path) =
      routeMatches other (canonicalPath path)) ↔ method ∈ routeMethods) ∧
    ((routeMatches matcher (canonicalPath path) = true ↔ Binds matcher (canonicalPath path)) ↔
      ¬ (matcherPattern matcher = some (.children []) ∧ routeSegments (canonicalPath path) = [])) ∧
    matcherPattern (lead ++ "/**") = some (.subtree (pathSegments '/' lead.toList)) ∧
      matcherPattern (lead ++ "/*") = some (.children (pathSegments '/' lead.toList)) := by
  refine ⟨?_, ?_, ?_⟩
  · exact method_ignored_iff method name found path
  · exact path_binds_iff matcher path
  · exact lead_patterns lead written

theorem route_binding_iff_sample :
    (routeMatches "/cache/**" "GET /cache" = routeMatches "/cache/**" "/cache") ∧
      matcherPattern "/cache/**" = some (.subtree ["cache".toList]) := by
  have path : canonicalPath "/cache".toList = "/cache" := by decide
  have bound := route_binding_iff "GET" "GET" "/cache/**" "/cache" "/cache".toList (by decide)
    (Or.inr rfl)
  have ignored := (bound.1.mpr (by decide)) "/cache/**"
  rw [path] at ignored
  exact ⟨ignored, bound.2.2.1⟩

/-- A method of the canonical routes that is not dropped hides the path behind it. -/
theorem trace_unbound : upperMethod "TRACE".toList = some "TRACE" ∧
    routeMatches "/cache" "/cache" = true ∧ routeMatches "/cache" "TRACE /cache" = false := by
  have found : upperMethod "TRACE".toList = some "TRACE" := by decide
  have path : canonicalPath "/cache".toList = "/cache" := by decide
  have own := own_path_bound "/cache".toList
  obtain ⟨c, plain, first⟩ := bare_kept "TRACE" "TRACE" found (by decide) "/cache".toList
  have unbound := path_unmatched _ _ (canonical_bare_head "/cache".toList) c plain
    (route_path_first _ c plain first)
  rw [path] at own unbound
  exact ⟨found, own, unbound⟩

end DosWeb.Reachability
