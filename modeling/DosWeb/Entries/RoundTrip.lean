import DosWeb.Entries.Records

/-!
A record of an entry is read back as the entry, and an accepted record differs from the record
of what it is read as in the forms of route and paths and the order of the inputs only.
-/

namespace DosWeb.Entries

open Library Library.JsonValue Library.OrderedSet Identifiers Entries.Coverage

theorem nonempty_string_ok (value field : String) (text : FieldText) :
    nonemptyString value field = .ok text ↔ value = text.1 := by
  unfold nonemptyString
  constructor
  · intro read
    split at read
    · cases read
    · split at read
      · cases read
        rfl
      · cases read
  · intro same
    subst same
    have valid := text.2
    have shape := text.2
    simp only [validText, Bool.and_eq_true, Bool.not_eq_true', decide_eq_true_eq] at shape
    rw [if_neg (by rw [shape.1.2]; simp [shape.1.1]), dif_pos valid]

section

variable {F : Type}

theorem string_of_ok (value : Json F) (field : String) (text : FieldText) :
    stringOf value field = .ok text ↔ value = .str text.1 := by
  cases value <;> simp [stringOf, nonempty_string_ok]

theorem positive_line_ok (value : Json F) (field : String) (line : PositiveLine) :
    positiveLine value field = .ok line ↔ value = .int line.1 := by
  cases value with
  | int number =>
    simp only [positiveLine]
    constructor
    · intro read
      split at read
      · cases read
        simp only [Json.int.injEq]
        omega
      · cases read
    · intro same
      have own := Json.int.inj same
      have positive := line.2
      rw [dif_pos (by omega)]
      congr 1
      apply Subtype.ext
      change number.toNat = line.1
      omega
  | _ => simp [positiveLine]

theorem source_path_ok (value : Json F) (field : String) (path : SourcePath) :
    sourcePath value field = .ok path ↔
      ∃ raw : FieldText, value = .str raw.1 ∧ normalPath raw.1.toList = some path.1.toList := by
  unfold sourcePath
  simp only [bind_ok, string_of_ok]
  constructor
  · intro read
    obtain ⟨raw, same, found⟩ := read
    refine ⟨raw, same, ?_⟩
    split at found
    · rename_i normal normalized
      cases found
      simpa using normalized
    · cases found
  · intro shape
    obtain ⟨raw, same, normalized⟩ := shape
    refine ⟨raw, same, ?_⟩
    split
    · rename_i normal found
      rw [found, Option.some_inj] at normalized
      congr 1
      apply Subtype.ext
      simp [normalized]
    · rename_i absent
      simp [absent] at normalized

theorem enum_of_ok {α : Type} (members : List α) (text : α → String) (value : Json F)
    (field : String) (member : α) (listed : member ∈ members)
    (valid : validText (text member) = true)
    (distinct : ∀ other ∈ members, text other = text member → other = member) :
    enumOf members text value field = .ok member ↔ value = .str (text member) := by
  unfold enumOf
  simp only [bind_ok, string_of_ok]
  constructor
  · intro read
    obtain ⟨held, same, found⟩ := read
    split at found
    · rename_i other located
      cases found
      have named := List.find?_some located
      rw [same, of_decide_eq_true named]
    · cases found
  · intro same
    refine ⟨⟨text member, valid⟩, same, ?_⟩
    cases located : members.find? fun other => decide (text other = text member) with
    | none =>
      have absent := List.find?_eq_none.mp located member listed
      simp at absent
    | some found =>
      have named := List.find?_some located
      rw [distinct found (List.mem_of_find?_eq_some located) (of_decide_eq_true named)]

end

def enumTexts : List String := frameworks.map Framework.text ++ protocols.map Protocol.text ++
    authContexts.map AuthContext.text ++ materializationPhases.map MaterializationPhase.text ++
    inputKinds.map InputKind.text ++ registrationKinds.map RegistrationKind.text

theorem enum_texts_valid : enumTexts.all validText = true := by
  decide

theorem framework_text_injective (left right : Framework) (same : left.text = right.text) :
    left = right := by
  revert same
  cases left <;> cases right <;> decide

theorem protocol_text_injective (left right : Protocol) (same : left.text = right.text) :
    left = right := by
  revert same
  cases left <;> cases right <;> decide

theorem auth_context_text_injective (left right : AuthContext) (same : left.text = right.text) :
    left = right := by
  revert same
  cases left <;> cases right <;> decide

theorem phase_text_injective (left right : MaterializationPhase)
    (same : left.text = right.text) : left = right := by
  revert same
  cases left <;> cases right <;> decide

theorem registration_text_injective (left right : RegistrationKind)
    (same : left.text = right.text) : left = right := by
  revert same
  cases left <;> cases right <;> decide

theorem EntryFact.same (left right : EntryFact) (framework : left.framework = right.framework)
    (protocol : left.protocol = right.protocol) (handler : left.handler = right.handler)
    (registration : left.registration = right.registration)
    (pattern : left.registrationPatternId = right.registrationPatternId)
    (route : left.routeOrEvent = right.routeOrEvent) (auth : left.authContext = right.authContext)
    (inputs : left.attackerInputs = right.attackerInputs)
    (phase : left.materializationPhase = right.materializationPhase) : left = right := by
  have leftId := left.idCanonical
  have rightId := right.idCanonical
  have id : left.entryId = right.entryId := by
    rw [leftId, rightId, framework, protocol, handler, registration, pattern, route, auth, inputs,
      phase]
  cases left
  cases right
  simp_all

theorem create_fields (framework : Framework) (protocol : Protocol) (handler : HandlerFact)
    (registration : RegistrationFact) (patternId : String) (route : FieldText)
    (authContext : AuthContext) (inputs : List AttackerInputFact) (phase : MaterializationPhase)
    (entry : EntryFact) :
    EntryFact.create framework protocol handler registration patternId route authContext inputs
        phase = .ok entry ↔
      (inputs ≠ [] ∧ protocol = framework.protocol ∧ registration.kind ∈ framework.registrations ∧
        patternId ∈ registrationCoveragePatternIds framework.text registration.kind.text) ∧
      entry.framework = framework ∧ entry.protocol = protocol ∧ entry.handler = handler ∧
      entry.registration = registration ∧ entry.registrationPatternId = patternId ∧
      entry.routeOrEvent = canonicalRoute route framework ∧ entry.authContext = authContext ∧
      entry.attackerInputs = sortedSet inputs ∧ entry.materializationPhase = phase := by
  unfold EntryFact.create
  split_ifs with none modeled registered bound
  · simp [none]
  · constructor
    · intro built
      cases built
      exact ⟨⟨none, modeled, registered, bound⟩, rfl, rfl, rfl, rfl, rfl, rfl, rfl, rfl, rfl⟩
    · intro shape
      obtain ⟨-, rfl, rfl, rfl, rfl, rfl, route, rfl, inputs, rfl⟩ := shape
      congr 1
      apply EntryFact.same <;> first | rfl | exact route.symm | exact inputs.symm
  · simp [bound]
  · simp [registered]
  · simp [modeled]

section

variable {F : Type}

theorem construct_ok (entryId : String) (framework : Framework) (protocol : Protocol)
    (handler : HandlerFact) (registration : RegistrationFact) (patternId route : Json F)
    (authContext : AuthContext) (inputs : List AttackerInputFact) (phase : MaterializationPhase)
    (entry : EntryFact) :
    EntryFact.construct entryId framework protocol handler registration patternId route authContext
        inputs phase = .ok entry ↔
      ∃ pattern text : FieldText, patternId = .str pattern.1 ∧ route = .str text.1 ∧
        linesPrintable handler registration = true ∧
        EntryFact.create framework protocol handler registration pattern.1 text authContext inputs
          phase = .ok entry ∧ entryId = entry.entryId := by
  unfold EntryFact.construct
  simp only [bind_ok, require_ok, string_of_ok, exists_const, decide_eq_true_eq]
  constructor
  · intro read
    obtain ⟨-, pattern, patternText, -, -, text, routeText, lines, made, created, own, same⟩ := read
    cases same
    exact ⟨pattern, text, patternText, routeText, lines, created, own⟩
  · intro shape
    obtain ⟨pattern, text, patternText, routeText, lines, created, own⟩ := shape
    obtain ⟨inputsFilled, -, registered, bound⟩ := ((create_fields _ _ _ _ _ _ _ _ _ _).mp created).1
    exact ⟨registered, pattern, patternText, bound, inputsFilled, text, routeText, lines, entry,
      created, own, rfl⟩

/-- An entry whose texts and lines the constructor accepts again. -/
structure Readable (entry : EntryFact) : Prop where
  pattern : validText entry.registrationPatternId = true
  route : validText entry.routeOrEvent = true
  lines : linesPrintable entry.handler entry.registration = true

end

section

theorem enum_text_valid (text : String) (listed : text ∈ enumTexts) : validText text = true :=
  List.all_eq_true.mp enum_texts_valid text listed

variable {F : Type}

variable (value : Json F)

section

variable (field : String)

theorem framework_ok (framework : Framework) :
    enumOf frameworks Framework.text value field = .ok framework ↔ value = .str framework.text := by
  apply enum_of_ok _ _ _ _ _ (by cases framework <;> decide)
  · exact enum_text_valid _ (by cases framework <;> decide)
  · exact fun other _ same => framework_text_injective other framework same

theorem protocol_ok (protocol : Protocol) :
    enumOf protocols Protocol.text value field = .ok protocol ↔ value = .str protocol.text := by
  apply enum_of_ok _ _ _ _ _ (by cases protocol <;> decide)
  · exact enum_text_valid _ (by cases protocol <;> decide)
  · exact fun other _ same => protocol_text_injective other protocol same

theorem auth_context_ok (context : AuthContext) :
    enumOf authContexts AuthContext.text value field = .ok context ↔ value = .str context.text := by
  apply enum_of_ok _ _ _ _ _ (by cases context <;> decide)
  · exact enum_text_valid _ (by cases context <;> decide)
  · exact fun other _ same => auth_context_text_injective other context same

theorem phase_ok (phase : MaterializationPhase) :
    enumOf materializationPhases MaterializationPhase.text value field = .ok phase ↔
      value = .str phase.text := by
  apply enum_of_ok _ _ _ _ _ (by cases phase <;> decide)
  · exact enum_text_valid _ (by cases phase <;> decide)
  · exact fun other _ same => phase_text_injective other phase same

theorem input_kind_ok (kind : InputKind) : enumOf inputKinds InputKind.text value field = .ok kind ↔
      value = .str kind.text := by
  apply enum_of_ok _ _ _ _ _ (by cases kind <;> decide)
  · exact enum_text_valid _ (by cases kind <;> decide)
  · exact fun other _ same => InputKind.text_injective other kind same

theorem registration_kind_ok (kind : RegistrationKind) :
    enumOf registrationKinds RegistrationKind.text value field = .ok kind ↔
      value = .str kind.text := by
  apply enum_of_ok _ _ _ _ _ (by cases kind <;> decide)
  · exact enum_text_valid _ (by cases kind <;> decide)
  · exact fun other _ same => registration_text_injective other kind same

end

end

variable {F : Type}

def PathText (value : Json F) (path : SourcePath) : Prop :=
  ∃ raw : FieldText, value = .str raw.1 ∧ normalPath raw.1.toList = some path.1.toList

theorem path_text_own (path : SourcePath) : PathText (Json.str path.1 : Json F) path :=
  ⟨⟨path.1, path.2.1⟩, rfl, path.2.2⟩

variable (members : Members F)

theorem handler_from_dict_ok (handler : HandlerFact) : handlerFromDict members = .ok handler ↔
      item "callable" members = .str handler.callable.1 ∧
        PathText (item "file" members) handler.file ∧
        item "start_line" members = .int handler.startLine.1 := by
  unfold handlerFromDict
  simp only [bind_ok, string_of_ok, source_path_ok, positive_line_ok]
  constructor
  · intro read
    obtain ⟨callable, text, file, path, line, number, same⟩ := read
    cases same
    exact ⟨text, path, number⟩
  · intro shape
    exact ⟨handler.callable, shape.1, handler.file, shape.2.1, handler.startLine, shape.2.2, rfl⟩

theorem registration_from_dict_ok (registration : RegistrationFact) :
    registrationFromDict members = .ok registration ↔
      item "kind" members = .str registration.kind.text ∧
        item "callable" members = .str registration.callable.1 ∧
        PathText (item "file" members) registration.file ∧
        item "start_line" members = .int registration.startLine.1 := by
  unfold registrationFromDict
  simp only [bind_ok, registration_kind_ok, string_of_ok, source_path_ok, positive_line_ok]
  constructor
  · intro read
    obtain ⟨kind, name, callable, text, file, path, line, number, same⟩ := read
    cases same
    exact ⟨name, text, path, number⟩
  · intro shape
    exact ⟨registration.kind, shape.1, registration.callable, shape.2.1, registration.file,
      shape.2.2.1, registration.startLine, shape.2.2.2, rfl⟩

def InputRecord (raw : Json F) (input : AttackerInputFact) : Prop :=
  ∃ members, raw = .obj members ∧ hasFields members ["name", "type", "kind"] = true ∧
    item "name" members = .str input.name.1 ∧ item "type" members = .str input.type.1 ∧
    item "kind" members = .str input.kind.text

variable (raw : Json F)

theorem input_from_dict_ok (input : AttackerInputFact) :
    inputFromDict raw = .ok input ↔ InputRecord raw input := by
  cases raw with
  | obj members =>
    simp only [inputFromDict, InputRecord, bind_ok, require_ok, exists_const, string_of_ok,
      input_kind_ok, Json.obj.injEq]
    constructor
    · intro read
      obtain ⟨fields, name, nameText, type, typeText, kind, kindText, same⟩ := read
      cases same
      exact ⟨members, rfl, fields, nameText, typeText, kindText⟩
    · intro shape
      obtain ⟨_, rfl, fields, nameText, typeText, kindText⟩ := shape
      exact ⟨fields, input.name, nameText, input.type, typeText, input.kind, kindText, rfl⟩
  | _ => simp [inputFromDict, InputRecord]

theorem nested_members_ok (expected : List String) (field : String) (members : Members F) :
    nestedMembers raw expected field = .ok members ↔
      raw = .obj members ∧ hasFields members expected = true := by
  cases raw with
  | obj held =>
    simp only [nestedMembers, bind_ok, require_ok, exists_const, Json.obj.injEq]
    constructor
    · intro read
      cases read.2
      exact ⟨rfl, read.1⟩
    · intro shape
      exact ⟨shape.1 ▸ shape.2, by rw [shape.1]; rfl⟩
  | _ => simp [nestedMembers]

theorem inputs_from_dict_ok (inputs : List AttackerInputFact) : inputsFromDict raw = .ok inputs ↔
      ∃ raws, raw = .arr raws ∧ raws ≠ [] ∧ raws.length ≤ maxRecordInputs ∧
        List.Forall₂ InputRecord raws inputs := by
  cases raw with
  | arr raws =>
    simp only [inputsFromDict, Json.arr.injEq]
    split_ifs with bad
    · constructor
      · intro read
        cases read
      · intro shape
        obtain ⟨_, rfl, filled, short, -⟩ := shape
        exact absurd bad (by simp only [filled, false_or]; omega)
    · simp only [mapM_ok, input_from_dict_ok]
      simp only [not_or] at bad
      exact ⟨fun all => ⟨raws, rfl, bad.1, by omega, all⟩,
        fun shape => by obtain ⟨_, rfl, -, -, all⟩ := shape; exact all⟩
  | _ => simp [inputsFromDict]

/-- A nested record that places a declaration at a path. -/
def LocatedRecord (raw : Json F) (expected : List String) (members : Members F)
    (path : SourcePath) : Prop := ∃ held, raw = .obj held ∧ hasFields held expected = true ∧
    (∀ key ∈ expected, key ≠ "file" → item key held = item key members) ∧
    PathText (item "file" held) path

theorem handler_record_iff (handler : HandlerFact) :
    (∃ members, nestedMembers raw ["callable", "file", "start_line"] "handler" = .ok members ∧
        handlerFromDict members = .ok handler) ↔
      LocatedRecord raw ["callable", "file", "start_line"] handler.members handler.file := by
  simp only [nested_members_ok, handler_from_dict_ok, LocatedRecord]
  constructor
  · intro read
    obtain ⟨members, ⟨same, fields⟩, callable, file, line⟩ := read
    refine ⟨members, same, fields, ?_, file⟩
    simp [HandlerFact.members, item, List.lookup_cons] at callable line ⊢
    exact ⟨callable, line⟩
  · intro shape
    obtain ⟨members, same, fields, plain, file⟩ := shape
    exact ⟨members, ⟨same, fields⟩, plain "callable" (by decide) (by decide), file,
      plain "start_line" (by decide) (by decide)⟩

theorem registration_record_iff (registration : RegistrationFact) :
    (∃ members, nestedMembers raw ["kind", "callable", "file", "start_line"] "registration" =
          .ok members ∧ registrationFromDict members = .ok registration) ↔
      LocatedRecord raw ["kind", "callable", "file", "start_line"] registration.members
        registration.file := by
  simp only [nested_members_ok, registration_from_dict_ok, LocatedRecord]
  constructor
  · intro read
    obtain ⟨members, ⟨same, fields⟩, kind, callable, file, line⟩ := read
    refine ⟨members, same, fields, ?_, file⟩
    simp [RegistrationFact.members, item, List.lookup_cons] at kind callable line ⊢
    exact ⟨kind, callable, line⟩
  · intro shape
    obtain ⟨members, same, fields, plain, file⟩ := shape
    exact ⟨members, ⟨same, fields⟩, plain "kind" (by decide) (by decide),
      plain "callable" (by decide) (by decide), file, plain "start_line" (by decide) (by decide)⟩

variable (entry : EntryFact)

theorem entry_id_valid : validText entry.entryId = true := by
  have plain := stable_identifier_plain "entry" entry.semanticIdentity (by decide)
  rw [EntryFact.semanticIdentity, ← entry.idCanonical] at plain
  have filled : entry.entryId ≠ "" := Text.startsWith_nonempty _ _ (by decide) entry.entry_id_starts
  have short : (Text.utf8 entry.entryId.toList).length ≤ maxStringBytes := plain.2.trans (by decide)
  simp [validText, filled, plain.1, short]

def plainFields : List String :=
  ["entry_id", "framework", "protocol", "registration_pattern_id", "auth_context",
    "materialization_phase"]

/-- What a record holds that is read as an entry with the given inputs. -/
structure RecordOf (members : Members F) (raws : List (Json F))
    (inputs : List AttackerInputFact) (entry : EntryFact) : Prop where
  fields : hasFields members recordFields = true
  plain : ∀ key ∈ plainFields, item key members = item key entry.members
  handler : LocatedRecord (item "handler" members) ["callable", "file", "start_line"]
    entry.handler.members entry.handler.file
  registration : LocatedRecord (item "registration" members)
    ["kind", "callable", "file", "start_line"] entry.registration.members entry.registration.file
  route : ∃ text : FieldText, item "route_or_event" members = .str text.1 ∧
    entry.routeOrEvent = canonicalRoute text entry.framework
  listed : item "attacker_inputs" members = .arr raws
  read : List.Forall₂ InputRecord raws inputs
  sorted : entry.attackerInputs = sortedSet inputs

theorem plain_fields_iff : (∀ key ∈ plainFields, item key members = item key entry.members) ↔
      item "entry_id" members = .str entry.entryId ∧
      item "framework" members = .str entry.framework.text ∧
      item "protocol" members = .str entry.protocol.text ∧
      item "registration_pattern_id" members = .str entry.registrationPatternId ∧
      item "auth_context" members = .str entry.authContext.text ∧
      item "materialization_phase" members = .str entry.materializationPhase.text := by
  simp [plainFields, EntryFact.members, item, List.lookup_cons]

theorem from_dict_ok : EntryFact.fromDict raw = .ok entry ↔
      ∃ members raws inputs, raw = .obj members ∧ RecordOf members raws inputs entry ∧
        raws ≠ [] ∧ raws.length ≤ maxRecordInputs ∧ validText entry.registrationPatternId = true ∧
        linesPrintable entry.handler entry.registration = true := by
  cases raw with
  | obj members =>
    simp only [EntryFact.fromDict, bind_ok, require_ok, exists_const, string_of_ok,
      inputs_from_dict_ok, framework_ok, protocol_ok, auth_context_ok, phase_ok, protocolFor,
      construct_ok, create_fields, Json.obj.injEq, decide_eq_true_eq]
    constructor
    · intro read
      obtain ⟨fields, handlerMembers, handlerNested, registrationMembers, registrationNested,
        inputs, ⟨raws, listed, filled, short, all⟩, id, idText, handler, handlerRead,
        registration, registrationRead, framework, frameworkText, protocol, protocolText,
        context, contextText, modeled, phase, phaseText, pattern, route, patternText, routeText,
        lines, ⟨-, sameFramework, sameProtocol, sameHandler, sameRegistration, samePattern,
          sameRoute, sameContext, sameInputs, samePhase⟩, sameId⟩ := read
      subst sameFramework sameProtocol sameHandler sameRegistration sameContext samePhase
      refine ⟨members, raws, inputs, rfl, ?_, filled, short, samePattern ▸ pattern.2, lines⟩
      exact {
        fields
        plain := (plain_fields_iff _ _).mpr ⟨sameId ▸ idText, frameworkText, protocolText,
          samePattern ▸ patternText, contextText, phaseText⟩
        handler := (handler_record_iff _ _).mp ⟨_, handlerNested, handlerRead⟩
        registration := (registration_record_iff _ _).mp
          ⟨_, registrationNested, registrationRead⟩
        route := ⟨route, routeText, sameRoute⟩
        listed
        read := all
        sorted := sameInputs }
    · intro shape
      obtain ⟨_, raws, inputs, rfl, record, filled, short, pattern, lines⟩ := shape
      obtain ⟨id, framework, protocol, patternText, context, phase⟩ :=
        (plain_fields_iff _ _).mp record.plain
      obtain ⟨handlerMembers, handlerNested, handlerRead⟩ :=
        (handler_record_iff _ _).mpr record.handler
      obtain ⟨registrationMembers, registrationNested, registrationRead⟩ :=
        (registration_record_iff _ _).mpr record.registration
      obtain ⟨route, routeText, canonical⟩ := record.route
      have some : inputs ≠ [] := by
        intro none
        have empty := record.sorted
        rw [none, sortedSet_nil] at empty
        exact entry.inputsRequired empty
      exact ⟨record.fields, handlerMembers, handlerNested, registrationMembers,
        registrationNested, inputs, ⟨raws, record.listed, filled, short, record.read⟩,
        ⟨entry.entryId, entry_id_valid entry⟩, id, entry.handler, handlerRead,
        entry.registration, registrationRead, entry.framework, framework, entry.protocol,
        protocol, entry.authContext, context, entry.protocolModeled,
        entry.materializationPhase, phase, ⟨_, pattern⟩, route, patternText, routeText, lines,
        ⟨⟨some, entry.protocolModeled, entry.registrationModeled, entry.patternModeled⟩, rfl, rfl,
          rfl, rfl, rfl, canonical, rfl, record.sorted, rfl⟩, rfl⟩
  | _ => simp [EntryFact.fromDict]

theorem own_input_record (input : AttackerInputFact) :
    InputRecord (.obj input.members : Json F) input :=
  ⟨_, rfl, by simp [hasFields, AttackerInputFact.members], rfl, rfl, rfl⟩

theorem own_input_records (inputs : List AttackerInputFact) :
    List.Forall₂ InputRecord (inputs.map fun input => (.obj input.members : Json F)) inputs := by
  induction inputs with
  | nil => exact .nil
  | cons input inputs ih => exact .cons (own_input_record input) ih

theorem own_record (readable : Readable entry) :
    RecordOf (entry.members (F := F)) (entry.attackerInputs.map fun input => .obj input.members)
      entry.attackerInputs entry where
  fields := by simp [hasFields, EntryFact.members, recordFields]
  plain := fun _ _ => rfl
  handler := ⟨_, rfl, by simp [hasFields, HandlerFact.members], fun _ _ _ => rfl, path_text_own _⟩
  registration := ⟨_, rfl, by simp [hasFields, RegistrationFact.members], fun _ _ _ => rfl,
    path_text_own _⟩
  route := by
    obtain ⟨origin, canonical⟩ := entry.routeCanonical
    exact ⟨⟨_, readable.route⟩, rfl,
      (canonical_route_fixed origin ⟨_, readable.route⟩ entry.framework canonical).symm⟩
  listed := rfl
  read := own_input_records _
  sorted := (sortedSet_of_increasing _ entry.inputsOrdered).symm

theorem from_dict_record_iff (readable : Readable entry) :
    EntryFact.fromDict (entry.record : Json F) = .ok entry ↔
      entry.attackerInputs.length ≤ maxRecordInputs := by
  rw [from_dict_ok]
  constructor
  · intro read
    obtain ⟨members, raws, inputs, same, record, -, short, -⟩ := read
    have held : item "attacker_inputs" (entry.members (F := F)) = .arr raws :=
      Json.obj.inj same ▸ record.listed
    have own : raws = entry.attackerInputs.map fun input => .obj input.members :=
      (Json.arr.inj held).symm
    simpa [own] using short
  · intro short
    exact ⟨_, _, _, rfl, own_record entry readable, by simpa using entry.inputsRequired,
      by simpa using short, readable.pattern, readable.lines⟩

/-- Two mappings with the same keys and, but for the excepted keys, the same values. -/
def SameMapping (excepted : List String) (left right : Members F) : Prop :=
  (∀ key, key ∈ left.map Prod.fst ↔ key ∈ right.map Prod.fst) ∧
    ∀ key ∈ left.map Prod.fst, key ∉ excepted → item key left = item key right

/-- Two declarations whose paths have one canonical form. -/
def SameLocated (left right : Json F) : Prop :=
  ∃ leftMembers rightMembers, left = .obj leftMembers ∧ right = .obj rightMembers ∧
    SameMapping ["file"] leftMembers rightMembers ∧
    ∃ text path, item "file" leftMembers = .str text ∧ item "file" rightMembers = .str path ∧
      normalPath text.toList = some path.toList

/-- Two sequences of mappings that agree up to order and duplication. -/
def SameSet (left right : Json F) : Prop :=
  ∃ leftItems rightItems, left = .arr leftItems ∧ right = .arr rightItems ∧
    (∀ one ∈ leftItems, ∃ other ∈ rightItems, ∃ oneMembers otherMembers,
      one = .obj oneMembers ∧ other = .obj otherMembers ∧ SameMapping [] oneMembers otherMembers) ∧
    ∀ other ∈ rightItems, ∃ one ∈ leftItems, ∃ oneMembers otherMembers,
      one = .obj oneMembers ∧ other = .obj otherMembers ∧ SameMapping [] oneMembers otherMembers

/-- Two records that agree up to the order and duplication of the inputs and the canonical form
of the route and of the paths. -/
structure SameRecord (framework : Framework) (left right : Members F) : Prop where
  mapping : SameMapping ["handler", "registration", "route_or_event", "attacker_inputs"] left right
  handler : SameLocated (item "handler" left) (item "handler" right)
  registration : SameLocated (item "registration" left) (item "registration" right)
  route : ∃ text : FieldText, item "route_or_event" left = .str text.1 ∧
    item "route_or_event" right = .str (canonicalRoute text framework)
  inputs : SameSet (item "attacker_inputs" left) (item "attacker_inputs" right)

theorem has_fields_key (expected : List String)
    (fields : hasFields members expected = true) (key : String) :
    key ∈ members.map Prod.fst ↔ key ∈ expected := by
  simp only [hasFields, Bool.and_eq_true, decide_eq_true_eq] at fields
  exact ⟨fun member => fields.1 member, fun member => fields.2 member⟩

theorem same_mapping_of_fields (excepted expected : List String)
    (left right : Members F) (leftFields : hasFields left expected = true)
    (rightFields : hasFields right expected = true)
    (same : ∀ key ∈ expected, key ∉ excepted → item key left = item key right) :
    SameMapping excepted left right := by
  constructor
  · intro key
    rw [has_fields_key left expected leftFields, has_fields_key right expected rightFields]
  · intro key member other
    exact same key ((has_fields_key left expected leftFields key).mp member) other

theorem same_located (expected : List String) (members : Members F)
    (path : SourcePath) (located : LocatedRecord raw expected members path)
    (fields : hasFields members expected = true) (file : item "file" members = .str path.1) :
    SameLocated raw (.obj members) := by
  obtain ⟨held, same, heldFields, plain, text, textSame, normal⟩ := located
  refine ⟨held, members, same, rfl, ?_, text.1, path.1, textSame, file, normal⟩
  apply same_mapping_of_fields ["file"] expected held members heldFields fields
  intro key member other
  exact plain key member (fun same => other (List.mem_singleton.mpr same))

theorem same_input_record (input : AttackerInputFact) (record : InputRecord raw input) :
    ∃ members, raw = .obj members ∧ SameMapping [] members input.members := by
  obtain ⟨members, same, fields, name, type, kind⟩ := record
  refine ⟨members, same, same_mapping_of_fields [] ["name", "type", "kind"] members _ fields
    (by simp [hasFields, AttackerInputFact.members]) ?_⟩
  simp [item, AttackerInputFact.members, List.lookup_cons] at name type kind ⊢
  exact ⟨name, type, kind⟩

theorem from_dict_same_record (accepted : EntryFact.fromDict raw = .ok entry) :
    ∃ members, raw = .obj members ∧ SameRecord entry.framework members entry.members := by
  obtain ⟨members, raws, inputs, same, record, -⟩ := (from_dict_ok raw entry).mp accepted
  refine ⟨members, same, ?_, ?_, ?_, ?_, ?_⟩
  · apply same_mapping_of_fields _ recordFields _ _ record.fields
      (by simp [hasFields, EntryFact.members, recordFields])
    intro key member other
    apply record.plain
    simp [recordFields, plainFields] at member other ⊢
    tauto
  · exact same_located _ _ _ _ record.handler (by simp [hasFields, HandlerFact.members]) rfl
  · exact same_located _ _ _ _ record.registration
      (by simp [hasFields, RegistrationFact.members]) rfl
  · obtain ⟨text, held, canonical⟩ := record.route
    exact ⟨text, held, congrArg Json.str canonical⟩
  · refine ⟨raws, _, record.listed, rfl, ?_, ?_⟩
    · intro one member
      obtain ⟨input, inside, own⟩ := related_left record.read one member
      obtain ⟨held, heldSame, mapping⟩ := same_input_record one input own
      have kept : input ∈ entry.attackerInputs := by
        rw [record.sorted, mem_sortedSet]
        exact inside
      exact ⟨_, List.mem_map_of_mem kept, held, _, heldSame, rfl, mapping⟩
    · intro other member
      obtain ⟨input, kept, own⟩ := List.mem_map.mp member
      rw [record.sorted, mem_sortedSet] at kept
      obtain ⟨one, inside, related⟩ := related_left record.read.flip input kept
      obtain ⟨held, heldSame, mapping⟩ := same_input_record one input related
      exact ⟨one, inside, held, _, heldSame, own.symm, mapping⟩

end DosWeb.Entries
