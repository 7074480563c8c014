import DosWeb.Library.Connectivity
import DosWeb.Production.GrowthCodec

/-!
Entries that interpositions join: one entry runs through the handler of another, and several
matched entries stand for one truth where these joins connect them.
-/

namespace DosWeb.Benchmark

open Library.Connectivity Library.JsonRecord Library.JsonValue
open Production (hashable)

variable {F : Type} (str : Json F → String) (sameNumber : Json F → Json F → Bool)

/-- The file and the line that a dictionary is keyed by; lists and objects are no keys. -/
def location (holder : Members F) : Json F × Json F := (get holder "file", get holder "start_line")

def keyed (holder : Members F) : Bool :=
  hashable (location holder).1 && hashable (location holder).2

def sameLocation (left right : Members F) : Bool :=
  alike sameNumber (location left).1 (location right).1 &&
    alike sameNumber (location left).2 (location right).2

section

variable (entries : List (Members F))

def entryIds : Finset String := (entries.map fun entry => str (get entry "entry_id")).toFinset

abbrev EntryId := { id : String // id ∈ entryIds str entries }

variable {entries}

theorem entry_id_listed (entry : Members F) (member : entry ∈ entries) :
    str (get entry "entry_id") ∈ entryIds str entries :=
  List.mem_toFinset.mpr (List.mem_map_of_mem member)

/-- The handlers by their locations, each with the entry that it handles. -/
def byLocation : List (Members F × EntryId str entries) :=
  entries.attach.filterMap fun entry => (objectOf (get entry.1 "handler")).map fun handler =>
    (handler, ⟨str (get entry.1 "entry_id"), entry_id_listed str entry.1 entry.2⟩)

/-- The entry and the interposer of a fact, unless the entry is foreign. -/
def joined (fact : Members F) : Option (EntryId str entries × Members F) :=
  match get fact "entry_id", objectOf (get fact "interposer") with
  | .str source, some interposer =>
    if inside : source ∈ entryIds str entries then some (⟨source, inside⟩, interposer) else none
  | _, _ => none

/-- The pairs that one fact adds to the graph, each in both directions. -/
def joins (fact : Members F) : List (EntryId str entries × EntryId str entries) :=
  match joined str fact with
  | some (source, interposer) =>
    ((byLocation str).filter fun handler => sameLocation sameNumber handler.1 interposer).map
      fun handler => (source, handler.2)
  | none => []

def neighbours (facts : List (Members F)) (current : EntryId str entries) :
    Finset (EntryId str entries) :=
  let pairs := facts.flatMap (joins str sameNumber)
  Finset.univ.filter fun other => (current, other) ∈ pairs ∨ (other, current) ∈ pairs

/-- A fact is looked up by its entry, and by its interposer's location where the entry is known. -/
def asked (fact : Members F) : Bool :=
  hashable (get fact "entry_id") && (@joined F str entries fact).all fun join => keyed join.2

def interpositionConnects (order : Iteration (EntryId str entries)) (facts : List (Members F)) :
    Decoded Bool :=
  if (entryIds str entries).card ≤ 1 then .ok true
  else do
    insist ((@byLocation F str entries).all fun handler => keyed handler.1) .typeError
    insist (facts.all (@asked F str entries)) .typeError
    return search order (neighbours str sameNumber facts) ∅
      (order.listing ∅ Finset.univ).head?.toList = Finset.univ

end

section

variable (entries facts : List (Members F))

/-- An edge joins the entry of a fact and every entry whose handler is where its interposer is. -/
def interpositionGraph : SimpleGraph (EntryId str entries) :=
  SimpleGraph.fromRel fun source target => ∃ fact ∈ facts, ∃ entry ∈ entries,
    ∃ interposer handler, get fact "entry_id" = .str source.1 ∧
      objectOf (get fact "interposer") = some interposer ∧
      str (get entry "entry_id") = target.1 ∧ objectOf (get entry "handler") = some handler ∧
      sameLocation sameNumber handler interposer = true

/-- No key that a dictionary is asked for is a list or an object. -/
def Keyed : Prop := (∀ entry ∈ entries, ∀ handler, objectOf (get entry "handler") = some handler →
    keyed handler = true) ∧ ∀ fact ∈ facts, hashable (get fact "entry_id") = true ∧
    ∀ interposer, objectOf (get fact "interposer") = some interposer → keyed interposer = true

variable {entries facts}

theorem joined_iff (fact interposer : Members F) (source : EntryId str entries) :
    joined str fact = some (source, interposer) ↔ get fact "entry_id" = .str source.1 ∧
      objectOf (get fact "interposer") = some interposer := by
  obtain ⟨id, inside⟩ := source
  unfold joined
  split
  · rename_i own found name holder
    split_ifs with known
    · simp [name, holder]
    · simp only [name, Json.str.injEq, false_iff, not_and]
      rintro rfl
      exact absurd inside known
  · rename_i other
    simp only [reduceCtorEq, false_iff, not_and]
    intro name holder
    exact other _ _ name holder

theorem handler_found (handler : Members F) (target : EntryId str entries) :
    (handler, target) ∈ byLocation str ↔ ∃ entry ∈ entries,
      str (get entry "entry_id") = target.1 ∧ objectOf (get entry "handler") = some handler := by
  obtain ⟨id, inside⟩ := target
  simp only [byLocation, List.mem_filterMap, List.mem_attach, true_and, Option.map_eq_some_iff,
    Prod.mk.injEq, Subtype.mk.injEq, Subtype.exists]
  constructor
  · rintro ⟨entry, member, _, found, rfl, same⟩
    exact ⟨entry, member, same, found⟩
  · rintro ⟨entry, member, same, found⟩
    exact ⟨entry, member, handler, found, rfl, same⟩

theorem join_iff (fact : Members F) (source target : EntryId str entries) :
    (source, target) ∈ joins str sameNumber fact ↔ ∃ entry ∈ entries, ∃ interposer handler,
      get fact "entry_id" = .str source.1 ∧ objectOf (get fact "interposer") = some interposer ∧
      str (get entry "entry_id") = target.1 ∧ objectOf (get entry "handler") = some handler ∧
      sameLocation sameNumber handler interposer = true := by
  unfold joins
  split
  · rename_i own interposer found
    have named := (joined_iff str fact interposer own).mp found
    simp only [List.mem_map, List.mem_filter, Prod.exists, Prod.mk.injEq]
    constructor
    · rintro ⟨handler, _, ⟨held, same⟩, rfl, rfl⟩
      obtain ⟨entry, member, id, handles⟩ := (handler_found str handler _).mp held
      exact ⟨entry, member, interposer, handler, named.1, named.2, id, handles, same⟩
    · rintro ⟨entry, member, other, handler, name, holder, id, handles, same⟩
      have both := (joined_iff str fact other source).mpr ⟨name, holder⟩
      rw [found] at both
      cases both
      exact ⟨handler, target, ⟨(handler_found str handler target).mpr
        ⟨entry, member, id, handles⟩, same⟩, rfl, rfl⟩
  · rename_i missing
    simp only [List.not_mem_nil, false_iff]
    rintro ⟨entry, member, interposer, handler, name, holder, -⟩
    rw [(joined_iff str fact interposer source).mpr ⟨name, holder⟩] at missing
    cases missing

theorem neighbour_iff (v w : EntryId str entries) (apart : v ≠ w) :
    w ∈ neighbours str sameNumber facts v ↔
      (interpositionGraph str sameNumber entries facts).Adj v w := by
  simp only [neighbours, interpositionGraph, Finset.mem_filter, Finset.mem_univ, true_and,
    List.mem_flatMap, join_iff, SimpleGraph.fromRel_adj, apart, ne_eq, not_false_eq_true]

theorem graph_grows (more : List (Members F)) (added : facts ⊆ more) :
    interpositionGraph str sameNumber entries facts ≤
      interpositionGraph str sameNumber entries more := by
  intro v w edge
  rw [interpositionGraph, SimpleGraph.fromRel_adj] at edge ⊢
  exact ⟨edge.1, edge.2.imp (fun ⟨fact, member, rest⟩ => ⟨fact, added member, rest⟩)
    fun ⟨fact, member, rest⟩ => ⟨fact, added member, rest⟩⟩

section

variable (order : Iteration (EntryId str entries))

theorem start_listed (many : ¬(entryIds str entries).card ≤ 1) :
    ∃ start, (order.listing ∅ Finset.univ).head?.toList = [start] := by
  obtain ⟨id, inside⟩ := Finset.card_pos.mp (show 0 < (entryIds str entries).card by omega)
  cases listed : order.listing ∅ Finset.univ with
  | nil =>
    have held := (order.lists ∅ Finset.univ ⟨id, inside⟩).mpr (Finset.mem_univ _)
    rw [listed] at held
    cases held
  | cons start rest => exact ⟨start, rfl⟩

theorem connects_iff (result : Bool)
    (returned : interpositionConnects str sameNumber order facts = .ok result) :
    result = true ↔ (entryIds str entries).card ≤ 1 ∨
      (interpositionGraph str sameNumber entries facts).Connected := by
  unfold interpositionConnects at returned
  split_ifs at returned with few
  · cases returned
    simp [few]
  · obtain ⟨start, first⟩ := start_listed str order few
    simp only [bind_ok, insist_ok, first] at returned
    obtain ⟨_, -, _, -, same⟩ := returned
    cases same
    rw [decide_eq_true_iff, or_iff_right few]
    exact search_all_iff order _ _ (neighbour_iff str sameNumber) start

theorem connects_keyed (every : Keyed entries facts) :
    ∃ result, interpositionConnects str sameNumber order facts = .ok result := by
  unfold interpositionConnects
  split_ifs with few
  · exact ⟨true, rfl⟩
  · have handlers : (@byLocation F str entries).all (fun h => keyed h.1) = true := by
      rw [List.all_eq_true]
      rintro ⟨handler, target⟩ held
      obtain ⟨entry, member, -, handles⟩ := (handler_found str handler target).mp held
      exact every.1 entry member handler handles
    have answered : facts.all (@asked F str entries) = true := by
      rw [List.all_eq_true]
      intro fact member
      rw [asked, (every.2 fact member).1, Bool.true_and, Option.all_eq_true]
      rintro ⟨source, interposer⟩ found
      exact (every.2 fact member).2 interposer ((joined_iff str fact interposer source).mp found).2
    exact ⟨_, by rw [handlers, answered]; rfl⟩

end

theorem interposition_connectivity (entries facts : List (Members F)) :
    (∀ (order : Iteration (EntryId str entries)) (result : Bool),
      interpositionConnects str sameNumber order facts = .ok result →
        (result = true ↔ (entryIds str entries).card ≤ 1 ∨
          (interpositionGraph str sameNumber entries facts).Connected)) ∧
    (∀ order : Iteration (EntryId str entries), Keyed entries facts →
      ∃ result, interpositionConnects str sameNumber order facts = .ok result) ∧
    ∀ (order other : Iteration (EntryId str entries)) (more : List (Members F)) (result : Bool),
      facts ⊆ more → interpositionConnects str sameNumber order facts = .ok true →
        interpositionConnects str sameNumber other more = .ok result → result = true := by
  refine ⟨connects_iff str sameNumber, connects_keyed str sameNumber, ?_⟩
  intro order other more result added before after
  rw [connects_iff str sameNumber other result after]
  refine ((connects_iff str sameNumber order true before).mp rfl).imp_right fun connected => ?_
  exact connected.mono (graph_grows str sameNumber more added)

end

end DosWeb.Benchmark
