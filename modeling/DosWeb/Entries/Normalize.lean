import DosWeb.Entries.RoundTrip

/-!
Raw query rows become entries: rows that agree but for the attacker input are merged into one
entry, whatever the number of inputs; a record of an entry is read back up to a number of inputs.
-/

namespace DosWeb.Entries

open Library Library.JsonValue Library.OrderedSet Identifiers Entries.Coverage
open Library.JsonRecord (isText)

def maxRows : Nat := 4096

def rowDetails (reason : String) (field : Option String) (row : Option Nat) : Members Empty :=
  invalidDetails reason field ++ (row.map fun number => ("row", Json.int number)).toList

def rowsInvalid (reason : String) (field : Option String := none) (row : Option Nat := none) :
    Raised := .analyzer ⟨"ANALYSIS_ENTRY_INVALID", "Entry rows cannot be normalized safely.",
    rowDetails reason field row⟩

def gapInvalid (reason : String) (field : String) : Raised :=
  .analyzer ⟨"COVERAGE_ENTRY_INVALID", "Entry coverage rows cannot be normalized safely.",
    rowDetails reason (some field) none⟩

section

variable {F : Type}

def textOf : Json F → Option String
  | .str text => some text
  | _ => none

def materializeRow (number : Nat) (row : Json F) : Checked (Members F) :=
  match row with
  | .obj members => do
      let wrong := wrongField (members.map Prod.fst) rawFields provenanceFields
      require (wrong = none) (rowsInvalid "ROW_FIELDS_INVALID" wrong (some number))
      return members
  | _ => .error (rowsInvalid "ROW_NOT_MAPPING" none (some number))

def materializeFrom (number : Nat) : List (Json F) → Checked (List (Members F))
  | [] => .ok []
  | row :: rows => do
      let members ← materializeRow number row
      let others ← materializeFrom (number + 1) rows
      return members :: others

def materializeRows (rows : List (Json F)) : Checked (List (Members F)) := do
  require (rows.length ≤ maxRows) (rowsInvalid "ROWS_INVALID")
  materializeFrom 1 rows

def gapTextFields : List String :=
  ["handler_fqn", "handler_file", "registration_fqn", "registration_file", "route_or_event",
    "auth_context", "attacker_input_name", "attacker_input_type", "attacker_input_kind",
    "materialization_phase"]

def filledText (value : Json F) : Bool :=
  (textOf value).any fun text => text ≠ "" && !text.toList.contains (Char.ofNat 0)

def positiveNumber : Json F → Bool
  | .int number => 0 < number
  | _ => false

/-- A path of a gap row keeps below the source root, without empty parts or dots. -/
def gapPath (value : Json F) : Bool :=
  (textOf value).any fun text =>
    !Text.startsWith text "/" && (Text.splitOn '/' (slashed text.toList)).all fun part =>
      part ≠ [] && part ≠ ['.'] && part ≠ ['.', '.']

def oneOf (texts : List String) (value : Json F) : Bool :=
  (textOf value).any fun text => text ∈ texts

/-- The first failing check of a family, one for each field. -/
def eachField (fields : List String) (check : Json F → Bool) (reason : String)
    (row : Members F) : Checked Unit :=
  match fields.find? fun field => !check (item field row) with
  | some field => .error (gapInvalid reason field)
  | none => .ok ()

def validateGapFields (row : Members F) : Checked Unit := do
  match frameworks.find? fun framework => isText framework.text (item "framework" row) with
  | none => .error (gapInvalid "FRAMEWORK_INVALID" "framework")
  | some framework =>
    require (isText framework.protocol.text (item "protocol" row))
      (gapInvalid "PROTOCOL_INVALID" "protocol")
    eachField gapTextFields filledText "GAP_FIELD_INVALID" row
    eachField ["handler_start_line", "registration_start_line"] positiveNumber
      "GAP_LINE_INVALID" row
    eachField ["handler_file", "registration_file"] gapPath "GAP_PATH_INVALID" row
    eachField ["auth_context"] (oneOf (authContexts.map AuthContext.text)) "GAP_ENUM_INVALID" row
    eachField ["attacker_input_kind"] (oneOf (inputKinds.map InputKind.text))
      "GAP_ENUM_INVALID" row
    eachField ["materialization_phase"]
      (oneOf (materializationPhases.map MaterializationPhase.text)) "GAP_ENUM_INVALID" row

def validateGapRow (row : Members F) : Checked Unit := do
  require (oneOf ["partial", "unsupported"] (item "coverage_status" row))
    (gapInvalid "GAP_STATUS_INVALID" "coverage_status")
  require (filledText (item "coverage_note" row)) (gapInvalid "NOTE_REQUIRED" "coverage_note")
  require (isText "dynamic_unresolved" (item "registration_kind" row))
    (gapInvalid "GAP_REGISTRATION_KIND_INVALID" "registration_kind")
  validateGapFields row

/-- The entry of a complete row; a row that documents a gap has none. -/
def rowFact (row : Members F) : Checked (Option EntryFact) := do
  require ((textOf (item "registration_kind" row)).isSome &&
    (textOf (item "coverage_status" row)).isSome)
    (rowsInvalid "ROW_FIELD_TYPE_INVALID" (some "coverage_status"))
  if isText "dynamic_unresolved" (item "registration_kind" row) ||
      !isText "complete" (item "coverage_status" row) then do
    validateGapRow row
    return none
  else do
    let fact ← EntryFact.fromRaw row
    return some fact

def rowFacts : List (Members F) → Checked (List EntryFact)
  | [] => .ok []
  | row :: rows => do
      let fact ← rowFact row
      let others ← rowFacts rows
      return fact.toList ++ others

end

structure EntryKey where
  framework : Framework
  protocol : Protocol
  handler : HandlerFact
  registration : RegistrationFact
  registrationPatternId : String
  routeOrEvent : String
  authContext : AuthContext
  materializationPhase : MaterializationPhase
  deriving DecidableEq

def EntryFact.key (fact : EntryFact) : EntryKey :=
  ⟨fact.framework, fact.protocol, fact.handler, fact.registration, fact.registrationPatternId,
    fact.routeOrEvent, fact.authContext, fact.materializationPhase⟩

/-- A fact joins the group of its key, or opens one; a group holds its first fact and others. -/
def addToGroup (fact : EntryFact) :
    List (EntryFact × List EntryFact) → List (EntryFact × List EntryFact)
  | [] => [(fact, [])]
  | (first, others) :: groups =>
    if first.key = fact.key then (first, others ++ [fact]) :: groups
    else (first, others) :: addToGroup fact groups

def groupFacts (facts : List EntryFact) : List (EntryFact × List EntryFact) :=
  facts.foldl (fun groups fact => addToGroup fact groups) []

def mergeGroup (group : EntryFact × List EntryFact) : Checked EntryFact := do
  let first := group.1
  let inputs := sortedSet ((first :: group.2).flatMap (·.attackerInputs))
  let route ← nonemptyString first.routeOrEvent "route_or_event"
  EntryFact.create first.framework first.protocol first.handler first.registration
    first.registrationPatternId route first.authContext inputs first.materializationPhase

/-- The groups hold the facts of one key each, in their order. -/
structure Grouped (groups : List (EntryFact × List EntryFact)) (facts : List EntryFact) : Prop where
  whole : ∀ group ∈ groups, group.1 :: group.2 = facts.filter fun fact => fact.key = group.1.key
  covers : ∀ fact ∈ facts, ∃ group ∈ groups, group.1.key = fact.key
  distinct : (groups.map fun group => group.1.key).Nodup

theorem add_to_group_cases (fact : EntryFact) (groups : List (EntryFact × List EntryFact)) :
    ((∀ group ∈ groups, group.1.key ≠ fact.key) ∧ addToGroup fact groups = groups ++ [(fact, [])]) ∨
      ∃ before group after, groups = before ++ group :: after ∧ group.1.key = fact.key ∧
        addToGroup fact groups = before ++ (group.1, group.2 ++ [fact]) :: after := by
  induction groups with
  | nil => exact Or.inl ⟨fun _ member => absurd member List.not_mem_nil, rfl⟩
  | cons group groups ih =>
    obtain ⟨first, others⟩ := group
    unfold addToGroup
    split
    · rename_i same
      exact Or.inr ⟨[], (first, others), groups, rfl, same, rfl⟩
    · rename_i other
      rcases ih with ⟨none, opened⟩ | ⟨before, group, after, split, same, joined⟩
      · refine Or.inl ⟨?_, by rw [opened]; rfl⟩
        intro group member
        rcases List.mem_cons.mp member with here | later
        · exact here ▸ other
        · exact none group later
      · exact Or.inr ⟨(first, others) :: before, group, after, by rw [split]; rfl, same,
          by rw [joined]; rfl⟩

theorem add_to_group_grouped (fact : EntryFact) (groups : List (EntryFact × List EntryFact))
    (facts : List EntryFact) (grouped : Grouped groups facts) :
    Grouped (addToGroup fact groups) (facts ++ [fact]) := by
  have other : ∀ key, key ≠ fact.key → (facts ++ [fact]).filter (fun held => held.key = key) =
        facts.filter fun held => held.key = key := by
    intro key apart
    simp [List.filter_append, Ne.symm apart]
  have own : (facts ++ [fact]).filter (fun held => held.key = fact.key) =
      facts.filter (fun held => held.key = fact.key) ++ [fact] := by
    simp [List.filter_append]
  rcases add_to_group_cases fact groups with ⟨none, opened⟩ |
    ⟨before, group, after, split, same, joined⟩
  · rw [opened]
    have fresh : facts.filter (fun held => held.key = fact.key) = [] := by
      apply List.filter_eq_nil_iff.mpr
      intro held member keyed
      obtain ⟨group, inside, keySame⟩ := grouped.covers held member
      exact none group inside (keySame.trans (of_decide_eq_true keyed))
    constructor
    · intro group member
      rcases List.mem_append.mp member with old | new
      · rw [other _ (none group old)]
        exact grouped.whole group old
      · rw [List.mem_singleton.mp new, own, fresh]
        rfl
    · intro held member
      rcases List.mem_append.mp member with old | new
      · obtain ⟨group, inside, keySame⟩ := grouped.covers held old
        exact ⟨group, List.mem_append_left _ inside, keySame⟩
      · rw [List.mem_singleton.mp new]
        exact ⟨(fact, []), List.mem_append_right _ (List.mem_singleton_self _), rfl⟩
    · rw [List.map_append, List.nodup_append]
      refine ⟨grouped.distinct, List.nodup_singleton _, ?_⟩
      intro key member last lastMember keySame
      obtain ⟨group, inside, own⟩ := List.mem_map.mp member
      have final : last = fact.key := List.mem_singleton.mp lastMember
      exact none group inside (own.trans (keySame.trans final))
  · rw [joined]
    have keys : ((before ++ (group.1, group.2 ++ [fact]) :: after).map fun group => group.1.key) =
        groups.map fun group => group.1.key := by
      simp [split]
    have apart : ∀ held ∈ before ++ after, held.1.key ≠ fact.key := by
      have distinct := grouped.distinct
      rw [split, List.map_append, List.map_cons] at distinct
      have nodup := (List.perm_middle.nodup_iff).mp distinct
      intro held member keySame
      apply (List.nodup_cons.mp nodup).1
      rw [← List.map_append, same, ← keySame]
      exact List.mem_map_of_mem member
    constructor
    · intro held member
      rcases List.mem_append.mp member with front | back
      · rw [other _ (apart held (List.mem_append_left _ front))]
        exact grouped.whole held (split ▸ List.mem_append_left _ front)
      · rcases List.mem_cons.mp back with here | later
        · have whole := grouped.whole group
            (split ▸ List.mem_append_right _ (.head _))
          rw [here]
          change group.1 :: (group.2 ++ [fact]) = _
          rw [same, own, ← same, ← whole]
          rfl
        · rw [other _ (apart held (List.mem_append_right _ later))]
          exact grouped.whole held
            (split ▸ List.mem_append_right _ (.tail _ later))
    · intro held member
      have key : held.key ∈ groups.map fun group => group.1.key := by
        rcases List.mem_append.mp member with old | new
        · obtain ⟨found, inside, keySame⟩ := grouped.covers held old
          exact List.mem_map.mpr ⟨found, inside, keySame⟩
        · rw [List.mem_singleton.mp new, ← same, split]
          exact List.mem_map_of_mem (List.mem_append_right _ (.head _))
      rw [← keys] at key
      exact List.mem_map.mp key
    · rw [keys]
      exact grouped.distinct

theorem group_facts_grouped (facts : List EntryFact) : Grouped (groupFacts facts) facts := by
  have run : ∀ before groups, Grouped groups before → ∀ facts,
      Grouped (facts.foldl (fun groups fact => addToGroup fact groups) groups)
        (before ++ facts) := by
    intro before groups grouped facts
    induction facts generalizing before groups with
    | nil => simpa using grouped
    | cons fact facts ih =>
      have next := ih (before ++ [fact]) _ (add_to_group_grouped fact groups before grouped)
      rwa [List.append_assoc] at next
  exact run [] [] ⟨fun _ member => absurd member List.not_mem_nil,
    fun _ member => absurd member List.not_mem_nil, List.nodup_nil⟩ facts

section

variable {F : Type}

theorem from_raw_ok (raw : Members F) (fact : EntryFact) (read : EntryFact.fromRaw raw = .ok fact) :
    Readable fact ∧ item "framework" raw = .str fact.framework.text ∧
      isText "complete" (item "coverage_status" raw) = true := by
  unfold EntryFact.fromRaw at read
  simp only [bind_ok, framework_ok, require_ok] at read
  obtain ⟨-, -, -, -, -, complete, framework, named, protocol, -, -, -, handlerCallable, -,
    handlerFile, -, handlerLine, -, registrationKind, -, registrationCallable, -, registrationFile,
    -, registrationLine, -, kind, -, -, -, note, -, built⟩ := read
  split at built
  · cases built
  · simp only [bind_ok] at built
    obtain ⟨name, -, type, -, inputText, -, inputKind, -, route, -, context, -, phase, -, -, -,
      constructed⟩ := built
    obtain ⟨pattern, text, patternSame, routeSame, lines, created, -⟩ :=
      (construct_ok _ _ _ _ _ _ _ _ _ _ _).mp constructed
    obtain ⟨-, same, -, handler, registration, samePattern, canonical, -⟩ :=
      (create_fields _ _ _ _ _ _ _ _ _ _).mp created
    have own : canonicalRoute text _ = text.1 :=
      canonical_route_fixed route text _ (Json.str.inj routeSame).symm
    refine ⟨⟨samePattern ▸ pattern.2, ?_, ?_⟩, by rw [same]; exact named, complete⟩
    · rw [canonical, own]
      exact text.2
    · rw [handler, registration]
      exact lines

def normalizedEntries (rows : List (Json F)) : Checked (List EntryFact) := do
  let materialized ← materializeRows rows
  let facts ← rowFacts materialized
  let merged ← (groupFacts facts).mapM mergeGroup
  return merged.insertionSort fun left right =>
    canonicalJson (.obj left.semanticIdentity) ≤ canonicalJson (.obj right.semanticIdentity)

def normalizeEntryRows (rows : List (Json F)) : Checked (List (Json F)) := do
  let entries ← normalizedEntries rows
  return entries.map EntryFact.record

def completeFact : Json F → Option EntryFact
  | .obj members =>
    match rowFact members with
    | .ok fact => fact
    | .error _ => none
  | _ => none

def completeFacts (rows : List (Json F)) : List EntryFact := rows.filterMap completeFact

/-- The attacker inputs of all rows that agree with a fact in everything else. -/
def sharedInputs (facts : List EntryFact) (fact : EntryFact) : List AttackerInputFact :=
  (facts.filter fun other => other.key = fact.key).flatMap (·.attackerInputs)

/-- Rows that agree but for the attacker input name at most `maxRecordInputs` inputs. -/
def InputsBounded (rows : List (Json F)) : Prop := ∀ fact ∈ completeFacts rows,
    (sortedSet (sharedInputs (completeFacts rows) fact)).length ≤ maxRecordInputs

theorem materialize_from_facts (number : Nat) (rows : List (Json F))
    (materialized : List (Members F)) (facts : List EntryFact)
    (rowsRead : materializeFrom number rows = .ok materialized)
    (factsRead : rowFacts materialized = .ok facts) : facts = completeFacts rows := by
  induction rows generalizing number materialized facts with
  | nil =>
    cases rowsRead
    cases factsRead
    rfl
  | cons row rows ih =>
    simp only [materializeFrom, bind_ok] at rowsRead
    obtain ⟨members, own, others, rest, same⟩ := rowsRead
    cases same
    simp only [rowFacts, bind_ok] at factsRead
    obtain ⟨fact, read, restFacts, restRead, same⟩ := factsRead
    cases same
    have held : row = .obj members := by
      cases row with
      | obj inner =>
        simp only [materializeRow, bind_ok] at own
        obtain ⟨-, -, same⟩ := own
        cases same
        rfl
      | _ => cases own
    rw [ih _ _ _ rest restRead, held]
    cases fact <;> simp [completeFacts, completeFact, read]

theorem row_facts_readable (rows : List (Members F)) (facts : List EntryFact)
    (read : rowFacts rows = .ok facts) : ∀ fact ∈ facts, Readable fact := by
  induction rows generalizing facts with
  | nil =>
    cases read
    exact fun _ member => absurd member List.not_mem_nil
  | cons row rows ih =>
    simp only [rowFacts, bind_ok] at read
    obtain ⟨own, ownRead, others, rest, same⟩ := read
    cases same
    intro fact member
    rcases List.mem_append.mp member with here | later
    · simp only [rowFact, bind_ok] at ownRead
      obtain ⟨-, -, branch⟩ := ownRead
      split at branch
      · simp only [bind_ok] at branch
        obtain ⟨-, -, same⟩ := branch
        cases same
        exact absurd here List.not_mem_nil
      · simp only [bind_ok] at branch
        obtain ⟨held, heldRead, same⟩ := branch
        cases same
        simp only [Option.toList_some, List.mem_singleton] at here
        exact here ▸ (from_raw_ok row held heldRead).1
    · exact ih others rest fact later

theorem merge_group_kept (group : EntryFact × List EntryFact) (entry : EntryFact)
    (merged : mergeGroup group = .ok entry) : entry.key = group.1.key ∧
      entry.attackerInputs = sortedSet ((group.1 :: group.2).flatMap (·.attackerInputs)) := by
  unfold mergeGroup at merged
  obtain ⟨route, same, created⟩ := bind_ok.mp merged
  rw [nonempty_string_ok] at same
  obtain ⟨-, framework, protocol, handler, registration, pattern, canonical, auth, inputs, phase⟩ :=
    (create_fields _ _ _ _ _ _ _ _ _ _).mp created
  obtain ⟨origin, fixed⟩ := group.1.routeCanonical
  have own : canonicalRoute route group.1.framework = route.1 :=
    canonical_route_fixed origin route _ (same.symm.trans fixed)
  constructor
  · rw [EntryFact.key, EntryFact.key, framework, protocol, handler, registration, pattern,
      canonical, own, ← same, auth, phase]
  · rw [inputs, sortedSet_idempotent]

theorem merge_group_entry (groups : List (EntryFact × List EntryFact)) (facts : List EntryFact)
    (grouped : Grouped groups facts) (readable : ∀ fact ∈ facts, Readable fact)
    (group : EntryFact × List EntryFact) (member : group ∈ groups) (entry : EntryFact)
    (merged : mergeGroup group = .ok entry) :
    Readable entry ∧ entry.attackerInputs = sortedSet (sharedInputs facts group.1) := by
  have whole := grouped.whole group member
  have firstMember : group.1 ∈ facts := by
    have inside : group.1 ∈ group.1 :: group.2 := .head _
    rw [whole] at inside
    exact (List.mem_filter.mp inside).1
  have first := readable group.1 firstMember
  obtain ⟨named, inputs⟩ := merge_group_kept group entry merged
  rw [EntryFact.key, EntryFact.key, EntryKey.mk.injEq] at named
  obtain ⟨-, -, handler, registration, pattern, route, -⟩ := named
  constructor
  · exact ⟨pattern ▸ first.pattern, route ▸ first.route,
      by rw [handler, registration]; exact first.lines⟩
  · rw [inputs, whole]
    rfl

theorem normalized_entries_groups (rows : List (Json F)) (entries : List EntryFact)
    (normalized : normalizedEntries rows = .ok entries) :
    (∀ entry ∈ entries, ∃ fact ∈ completeFacts rows, Readable entry ∧
        entry.attackerInputs = sortedSet (sharedInputs (completeFacts rows) fact)) ∧
      ∀ fact ∈ completeFacts rows, ∃ entry ∈ entries, Readable entry ∧
        entry.attackerInputs = sortedSet (sharedInputs (completeFacts rows) fact) := by
  simp only [normalizedEntries, bind_ok, mapM_ok] at normalized
  obtain ⟨materialized, rowsRead, facts, factsRead, merged, all, sorted⟩ := normalized
  cases sorted
  have readable := row_facts_readable materialized facts factsRead
  simp only [materializeRows, bind_ok] at rowsRead
  obtain ⟨-, -, rowsRead⟩ := rowsRead
  have same := materialize_from_facts 1 rows materialized facts rowsRead factsRead
  have grouped := group_facts_grouped facts
  rw [← same]
  constructor
  · intro entry member
    obtain ⟨group, inside, mergedOne⟩ := related_left all.flip entry
      ((List.mem_insertionSort _).mp member)
    have own := merge_group_entry _ _ grouped readable group inside entry mergedOne
    have held : group.1 ∈ group.1 :: group.2 := .head _
    rw [grouped.whole group inside] at held
    exact ⟨group.1, (List.mem_filter.mp held).1, own⟩
  · intro fact member
    obtain ⟨group, inside, keySame⟩ := grouped.covers fact member
    obtain ⟨entry, kept, mergedOne⟩ := related_left all group inside
    have own := merge_group_entry _ _ grouped readable group inside entry mergedOne
    refine ⟨entry, (List.mem_insertionSort _).mpr kept, own.1, ?_⟩
    rw [own.2, sharedInputs, sharedInputs, keySame]

/-- The published entries are read back exactly when rows that agree but for the input name no
more inputs than a record may hold; an accepted record is the record of its entry. -/
theorem entries_read_back_iff :
    (∀ (rows : List (Json F)) (entries : List EntryFact), normalizedEntries rows = .ok entries →
        ((∀ entry ∈ entries, EntryFact.fromDict (entry.record : Json F) = .ok entry) ↔
          InputsBounded rows)) ∧
      ∀ (raw : Json F) (entry : EntryFact), EntryFact.fromDict raw = .ok entry →
        ∃ members, raw = .obj members ∧ SameRecord entry.framework members entry.members := by
  refine ⟨?_, from_dict_same_record⟩
  intro rows entries normalized
  obtain ⟨fromFact, ofFact⟩ := normalized_entries_groups rows entries normalized
  constructor
  · intro readBack fact member
    obtain ⟨entry, kept, readable, inputs⟩ := ofFact fact member
    have short := (from_dict_record_iff entry readable).mp (readBack entry kept)
    rwa [inputs] at short
  · intro bounded entry member
    obtain ⟨fact, held, readable, inputs⟩ := fromFact entry member
    apply (from_dict_record_iff entry readable).mpr
    rw [inputs]
    exact bounded fact held

theorem create_total (framework : Framework) (protocol : Protocol) (handler : HandlerFact)
    (registration : RegistrationFact) (patternId : String) (route : FieldText)
    (authContext : AuthContext) (inputs : List AttackerInputFact) (phase : MaterializationPhase)
    (filled : inputs ≠ []) (modeled : protocol = framework.protocol)
    (registered : registration.kind ∈ framework.registrations)
    (bound : patternId ∈ registrationCoveragePatternIds framework.text registration.kind.text) :
    ∃ entry, EntryFact.create framework protocol handler registration patternId route authContext
      inputs phase = .ok entry := by
  unfold EntryFact.create
  rw [dif_neg filled, dif_pos modeled, dif_pos registered, dif_pos bound]
  exact ⟨_, rfl⟩

theorem merge_group_total (group : EntryFact × List EntryFact) (first : Readable group.1) :
    ∃ entry, mergeGroup group = .ok entry := by
  have filled : sortedSet ((group.1 :: group.2).flatMap (·.attackerInputs)) ≠ [] := by
    simpa using fun none => absurd none group.1.inputsRequired
  obtain ⟨entry, created⟩ := create_total group.1.framework group.1.protocol group.1.handler
    group.1.registration group.1.registrationPatternId ⟨_, first.route⟩ group.1.authContext _
    group.1.materializationPhase filled group.1.protocolModeled group.1.registrationModeled
    group.1.patternModeled
  exact ⟨entry, bind_ok.mpr ⟨⟨_, first.route⟩, (nonempty_string_ok _ _ _).mpr rfl, created⟩⟩

theorem normalized_entries_total (rows : List (Json F))
    (materialized : List (Members F)) (facts : List EntryFact)
    (rowsRead : materializeRows rows = .ok materialized)
    (factsRead : rowFacts materialized = .ok facts) :
    ∃ entries, normalizedEntries rows = .ok entries := by
  have readable := row_facts_readable materialized facts factsRead
  have grouped := group_facts_grouped facts
  obtain ⟨merged, all⟩ := mapM_total mergeGroup (groupFacts facts) fun group inside => by
    have held : group.1 ∈ group.1 :: group.2 := .head _
    rw [grouped.whole group inside] at held
    exact merge_group_total group (readable group.1 (List.mem_filter.mp held).1)
  exact ⟨_, bind_ok.mpr ⟨materialized, rowsRead, bind_ok.mpr ⟨facts, factsRead,
    bind_ok.mpr ⟨merged, all, rfl⟩⟩⟩⟩

end

def sampleRow (name : FieldText) : Members Empty := [
  ("framework", .str "spring_mvc"), ("protocol", .str "http"), ("handler_fqn", .str "token"),
  ("handler_file", .str "src/Cache.java"), ("handler_start_line", .int 9),
  ("registration_kind", .str "annotation_mapping"), ("registration_fqn", .str "token"),
  ("registration_file", .str "src/Cache.java"), ("registration_start_line", .int 8),
  ("route_or_event", .str "/token"), ("auth_context", .str "unknown"),
  ("attacker_input_name", .str name.1), ("attacker_input_type", .str "token"),
  ("attacker_input_kind", .str "header"), ("materialization_phase", .str "in_handler"),
  ("coverage_status", .str "complete"), ("coverage_note", .str "spring_annotation_mapping")]

theorem sample_row_texts : (validText samplePattern && validText "/token" &&
    validText "spring_annotation_mapping" &&
    wrongField rawFields rawFields provenanceFields = none) = true := by
  decide

theorem sample_route_valid : validText "/token" = true := by
  have texts := sample_row_texts
  simp only [Bool.and_eq_true] at texts
  exact texts.1.1.2

theorem sample_route_canonical :
    canonicalRoute ⟨"/token", sample_route_valid⟩ .springMvc = "/token" := by
  decide

theorem sample_pattern_found : registrationCoveragePatternId Framework.springMvc.text
    RegistrationKind.annotationMapping.text "spring_annotation_mapping" = some samplePattern := by
  rfl

def sampleHandler : HandlerFact :=
  ⟨⟨"token", token_valid⟩, ⟨"src/Cache.java", cache_path_valid⟩, ⟨9, nine_positive⟩⟩

def sampleRegistration : RegistrationFact :=
  ⟨.annotationMapping, ⟨"token", token_valid⟩, ⟨"src/Cache.java", cache_path_valid⟩,
    ⟨8, eight_positive⟩⟩

def sampleInput (name : FieldText) : AttackerInputFact := ⟨name, ⟨"token", token_valid⟩, .header⟩

def sampleKey : EntryKey :=
  ⟨.springMvc, .http, sampleHandler, sampleRegistration, samplePattern, "/token", .unknown,
    .inHandler⟩

theorem sample_created (name : FieldText) : ∃ fact : EntryFact,
    EntryFact.create .springMvc .http sampleHandler sampleRegistration samplePattern
        ⟨"/token", sample_route_valid⟩ .unknown [sampleInput name] .inHandler = .ok fact ∧
      fact.key = sampleKey ∧ fact.attackerInputs = [sampleInput name] := by
  have bound : samplePattern ∈ registrationCoveragePatternIds Framework.springMvc.text
      sampleRegistration.kind.text := by
    apply (mem_sortedSet _ _).mpr
    exact List.mem_filterMap.mpr ⟨"spring_annotation_mapping", by decide, sample_pattern_found⟩
  obtain ⟨fact, created⟩ := create_total .springMvc .http sampleHandler sampleRegistration
    samplePattern ⟨"/token", sample_route_valid⟩ .unknown [sampleInput name] .inHandler
    (by simp) rfl (by decide) bound
  obtain ⟨-, framework, protocol, handler, registration, pattern, route, auth, inputs, phase⟩ :=
    (create_fields _ _ _ _ _ _ _ _ _ _).mp created
  refine ⟨fact, created, ?_, by rw [inputs, sortedSet_singleton]⟩
  rw [EntryFact.key, framework, protocol, handler, registration, pattern, route,
    sample_route_canonical, auth, phase]
  rfl

theorem sample_from_raw (name : FieldText) : ∃ fact : EntryFact,
    EntryFact.fromRaw (sampleRow name) = .ok fact ∧ fact.key = sampleKey ∧
      fact.attackerInputs = [sampleInput name] := by
  obtain ⟨fact, created, key, inputs⟩ := sample_created name
  have texts := sample_row_texts
  simp only [Bool.and_eq_true, decide_eq_true_eq] at texts
  obtain ⟨⟨⟨patternValid, -⟩, noteValid⟩, fields⟩ := texts
  have constructed : EntryFact.construct (stableIdentifier "entry" (identityOf .springMvc .http
      sampleHandler sampleRegistration samplePattern
      (canonicalRoute ⟨"/token", sample_route_valid⟩ .springMvc) .unknown [sampleInput name]
      .inHandler)) .springMvc .http sampleHandler sampleRegistration
      (Json.str samplePattern : PlainJson)
      (.str (canonicalRoute ⟨"/token", sample_route_valid⟩ .springMvc)) .unknown
      [sampleInput name] .inHandler = .ok fact := by
    apply (construct_ok _ _ _ _ _ _ _ _ _ _ _).mpr
    refine ⟨⟨_, patternValid⟩, ⟨_, sample_route_valid⟩, rfl, by rw [sample_route_canonical],
      by decide, created, ?_⟩
    obtain ⟨-, framework, protocol, handler, registration, pattern, route, auth, own, phase⟩ :=
      (create_fields _ _ _ _ _ _ _ _ _ _).mp created
    rw [fact.idCanonical, framework, protocol, handler, registration, pattern, route, auth, inputs,
      phase]
  refine ⟨fact, ?_, key, inputs⟩
  unfold EntryFact.fromRaw
  simp only [bind_ok, protocolFor, require_ok, exists_const, framework_ok, protocol_ok,
    string_of_ok, source_path_ok, positive_line_ok, registration_kind_ok, decide_eq_true_eq]
  refine ⟨fields, rfl, rfl, .springMvc, rfl, .http, rfl, rfl, ⟨"token", token_valid⟩, rfl,
    sampleHandler.file, path_text_own sampleHandler.file, sampleHandler.startLine, rfl,
    ⟨"annotation_mapping", enum_text_valid _ (by decide)⟩, rfl, ⟨"token", token_valid⟩, rfl,
    sampleHandler.file, path_text_own sampleHandler.file, sampleRegistration.startLine, rfl,
    .annotationMapping, rfl, by decide, ⟨"spring_annotation_mapping", noteValid⟩, rfl, ?_⟩
  rw [sample_pattern_found]
  simp only [input_kind_ok, auth_context_ok, phase_ok, bind_ok, require_ok, exists_const,
    string_of_ok]
  exact ⟨name, rfl, ⟨"token", token_valid⟩, rfl, ⟨"header", enum_text_valid _ (by decide)⟩, rfl,
    .header, rfl, ⟨"/token", sample_route_valid⟩, rfl, .unknown, rfl, .inHandler, rfl, by decide,
    constructed⟩

theorem sample_row_fact (name : FieldText) : ∃ fact : EntryFact,
    rowFact (sampleRow name) = .ok (some fact) ∧ fact.key = sampleKey ∧
      fact.attackerInputs = [sampleInput name] := by
  obtain ⟨fact, read, own⟩ := sample_from_raw name
  refine ⟨fact, ?_, own⟩
  unfold rowFact
  simp only [bind_ok, require_ok, exists_const]
  refine ⟨rfl, ?_⟩
  have complete : (isText "dynamic_unresolved" (item "registration_kind" (sampleRow name)) ||
      !isText "complete" (item "coverage_status" (sampleRow name))) = false := rfl
  rw [complete, if_neg (by decide)]
  exact bind_ok.mpr ⟨fact, read, rfl⟩

theorem sample_rows_read (names : List FieldText) (number : Nat) : ∃ facts,
    materializeFrom number (names.map fun name => Json.obj (sampleRow name)) =
        .ok (names.map sampleRow) ∧ rowFacts (names.map sampleRow) = .ok facts ∧
      (∀ fact ∈ facts, fact.key = sampleKey) ∧
      facts.flatMap (·.attackerInputs) = names.map sampleInput := by
  have texts := sample_row_texts
  simp only [Bool.and_eq_true, decide_eq_true_eq] at texts
  induction names generalizing number with
  | nil => exact ⟨[], rfl, rfl, fun _ member => absurd member List.not_mem_nil, rfl⟩
  | cons name names ih =>
    obtain ⟨facts, rowsRead, factsRead, keys, inputs⟩ := ih (number + 1)
    obtain ⟨fact, read, key, own⟩ := sample_row_fact name
    refine ⟨fact :: facts, ?_, ?_, ?_, ?_⟩
    · have row : materializeRow number (Json.obj (sampleRow name)) = .ok (sampleRow name) := by
        simp only [materializeRow, bind_ok, require_ok, exists_const, decide_eq_true_eq]
        exact ⟨texts.2, rfl⟩
      exact bind_ok.mpr ⟨_, row, bind_ok.mpr ⟨_, rowsRead, rfl⟩⟩
    · exact bind_ok.mpr ⟨_, read, bind_ok.mpr ⟨_, factsRead, rfl⟩⟩
    · intro held member
      rcases List.mem_cons.mp member with here | later
      · exact here ▸ key
      · exact keys held later
    · rw [List.flatMap_cons, own, inputs]
      rfl

theorem sample_name_valid (n : Fin 65) :
    validText (String.ofList (List.replicate (n.1 + 1) 'p')) = true := by
  have bytes : (Text.utf8 (List.replicate (n.1 + 1) 'p')).length = n.1 + 1 := by
    rw [Text.utf8_length_ascii]
    · simp
    · intro c member
      rw [List.eq_of_mem_replicate member]
      decide
  have solid : Char.ofNat 0 ∉ List.replicate (n.1 + 1) 'p' := by
    intro member
    exact absurd (List.eq_of_mem_replicate member) (by decide)
  have below := n.2
  simp [validText, maxStringBytes, bytes]
  omega

def sampleNames : List FieldText :=
  (List.finRange 65).map fun n => ⟨String.ofList (List.replicate (n.1 + 1) 'p'),
    sample_name_valid n⟩

theorem sample_inputs_nodup : (sampleNames.map sampleInput).Nodup := by
  rw [sampleNames, List.map_map]
  apply (List.nodup_finRange 65).map
  intro left right same
  have name := congrArg (fun input : AttackerInputFact => input.name.1.toList.length) same
  simp [sampleInput] at name
  exact Fin.ext (by omega)

/-- The rows of one handler with 65 inputs give an entry that is not read back. -/
theorem many_inputs_not_read_back :
    ¬ ∀ (rows : List PlainJson) (entries : List EntryFact), normalizedEntries rows = .ok entries →
      ∀ entry ∈ entries, EntryFact.fromDict (entry.record : PlainJson) = .ok entry := by
  intro readBack
  obtain ⟨facts, rowsRead, factsRead, keys, inputs⟩ := sample_rows_read sampleNames 1
  have materialized : materializeRows (sampleNames.map fun name => Json.obj (sampleRow name)) =
      .ok (sampleNames.map sampleRow) := by
    apply bind_ok.mpr
    exact ⟨(), (require_ok _ _ _).mpr (by simp [sampleNames, maxRows]), rowsRead⟩
  have same := materialize_from_facts 1 _ _ _ rowsRead factsRead
  obtain ⟨entries, normalized⟩ := normalized_entries_total _ _ _ materialized factsRead
  obtain ⟨-, ofFact⟩ := normalized_entries_groups _ _ normalized
  rw [← same] at ofFact
  cases facts with
  | nil => exact absurd inputs (by simp [sampleNames])
  | cons fact facts =>
    obtain ⟨entry, member, readable, own⟩ := ofFact fact (.head _)
    have shared : sharedInputs (fact :: facts) fact = sampleNames.map sampleInput := by
      rw [sharedInputs, List.filter_eq_self.mpr, inputs]
      intro other otherMember
      rw [keys other otherMember, keys fact (.head _)]
      exact decide_eq_true rfl
    have short := (from_dict_record_iff entry readable).mp (readBack _ _ normalized entry member)
    rw [own, shared, sortedSet_length _ sample_inputs_nodup] at short
    simp [sampleNames, maxRecordInputs] at short

end DosWeb.Entries
