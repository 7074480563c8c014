import DosWeb.Flows.Normalize
import DosWeb.Library.FieldSets

/-!
The record of a flow proof: how it is read, and which records are written back as they were.
-/

namespace DosWeb.Flows

open Library Library.JsonValue Library.JsonRecord Library.OrderedSet Identifiers
open Entries (FieldText CoverageStatus validText)

deriving instance DecidableEq for FlowProof

variable {F : Type}

def proofFields : List String :=
  ["path_id", "entry_id", "growth_id", "attacker_control", "call_path", "phase_sequence",
    "confidence"]

def coverageFields : List String := ["flow_kind", "coverage_status", "coverage_note"]

def controlFields : List String := ["target", "source", "sink"]

abbrev ItemTexts := { values : List String // validSequence values = true }

abbrev Identified (lead : String) := { identifier : String // Text.startsWith identifier lead = true }

def textOf (value : Json F) (field : String) : Checked FieldText :=
  match value with
  | .str text => flowString text field
  | _ => .error (flowInvalid "STRING_REQUIRED" (some field))

def memberOf {α : Type} (members : List α) (text : α → String) (value : Json F) (field : String) :
    Checked α :=
  match value with
  | .str name => flowEnum members text name field
  | _ => .error (flowInvalid "STRING_REQUIRED" (some field))

def identifiedOf (lead : String) (raised : Raised) (value : Json F) : Checked (Identified lead) :=
  match value with
  | .str identifier =>
    if starts : Text.startsWith identifier lead = true then .ok ⟨identifier, starts⟩
    else .error raised
  | _ => .error raised

def itemTexts (field : String) : List (Json F) → Checked (List String)
  | [] => .ok []
  | item :: items => do
      let text ← textOf item field
      let texts ← itemTexts field items
      return text.1 :: texts

/-- The items of a list, or of a text that separates them. -/
def itemsOf (value : Json F) (field : String) : Checked (List String) :=
  match value with
  | .str text => flowSequence text field
  | .arr items => do
      require (items ≠ [] && items.length ≤ maxItems) (flowInvalid "SEQUENCE_LIMIT" (some field))
      itemTexts field items
  | _ => .error (flowInvalid "SEQUENCE_INVALID" (some field))

def sequenceOf (value : Json F) (field : String) : Checked ItemTexts := do
  let values ← itemsOf value field
  if valid : validSequence values = true then .ok ⟨values, valid⟩
  else .error (flowInvalid "SEQUENCE_LIMIT" (some field))

def controlOf (value : Json F) : Checked AttackerControl :=
  match objectOf value with
  | none => .error (flowInvalid "ATTACKER_CONTROL_INVALID")
  | some control => do
      require (fieldSet control = sortedSet controlFields) (flowInvalid "ATTACKER_CONTROL_INVALID")
      let target ← memberOf attackerTargets AttackerTarget.text (get control "target")
        "attacker_target"
      let source ← textOf (get control "source") "attacker_source"
      let sink ← textOf (get control "sink") "attacker_sink"
      return ⟨target, source, sink⟩

/-- The member under a key, or what stands for it where there is none. -/
def getOr (record : Members F) (key default : String) : Json F :=
  (present record key).getD (.str default)

def identifiedProof (pathId : Json F) (entryId : Identified "entry:") (growthId : Identified "growth:")
    (control : AttackerControl) (callPath phaseSequence : ItemTexts) (confidence : FlowConfidence)
    (flowKind : FieldText) (coverageStatus : CoverageStatus) (coverageNote : FieldText) :
    Checked FlowProof :=
  if provenComplete : confidence = .proven →
      (flowKind.1 = "data_flow" ∨ flowKind.1 = "local_data_flow") ∧ coverageStatus = .complete then
    if isText (stableIdentifier "flow" (flowIdentity entryId.1 growthId.1 control callPath.1
        phaseSequence.1 confidence)) pathId then
      .ok {
        pathId := stableIdentifier "flow" (flowIdentity entryId.1 growthId.1 control callPath.1
          phaseSequence.1 confidence)
        entryId := entryId.1
        growthId := growthId.1
        attackerControl := control
        callPath := callPath.1
        phaseSequence := phaseSequence.1
        confidence, flowKind, coverageStatus, coverageNote
        entryIdStarts := entryId.2
        growthIdStarts := growthId.2
        callPathValid := callPath.2
        phaseSequenceValid := phaseSequence.2
        provenComplete
        pathIdCanonical := rfl }
    else .error (flowInvalid "PATH_ID_MISMATCH" (some "path_id"))
  else .error (flowInvalid "PROVEN_FLOW_REQUIRES_COMPLETE_DATA_FLOW")

def FlowProof.fromDict (record : Members F) : Checked FlowProof := do
  require (fieldSet record = sortedSet proofFields ||
    fieldSet record = sortedSet (proofFields ++ coverageFields))
    (flowInvalid "RECORD_FIELDS_INVALID")
  let control ← controlOf (get record "attacker_control")
  let callPath ← sequenceOf (get record "call_path") "call_path"
  let phaseSequence ← sequenceOf (get record "phase_sequence") "phase_sequence"
  let entryId ← identifiedOf "entry:" (flowInvalid "ENTRY_ID_INVALID" (some "entry_id"))
    (get record "entry_id")
  let growthId ← identifiedOf "growth:" (flowInvalid "GROWTH_ID_INVALID" (some "growth_id"))
    (get record "growth_id")
  let confidence ← memberOf flowConfidences FlowConfidence.text (get record "confidence") "confidence"
  let flowKind ← textOf (getOr record "flow_kind" "data_flow") "flow_kind"
  let coverageStatus ← memberOf coverageStatuses CoverageStatus.text
    (getOr record "coverage_status" "complete") "coverage_status"
  let coverageNote ← textOf (getOr record "coverage_note" "normalized") "coverage_note"
  identifiedProof (get record "path_id") entryId growthId control callPath phaseSequence confidence
    flowKind coverageStatus coverageNote

def AttackerControl.members (control : AttackerControl) : Members F :=
  [("target", .str control.target.text), ("source", .str control.source.1),
    ("sink", .str control.sink.1)]

def FlowProof.members (proof : FlowProof) : Members F :=
  [("path_id", .str proof.pathId), ("entry_id", .str proof.entryId),
    ("growth_id", .str proof.growthId), ("attacker_control", .obj proof.attackerControl.members),
    ("call_path", .arr (proof.callPath.map .str)),
    ("phase_sequence", .arr (proof.phaseSequence.map .str)),
    ("confidence", .str proof.confidence.text), ("flow_kind", .str proof.flowKind.1),
    ("coverage_status", .str proof.coverageStatus.text),
    ("coverage_note", .str proof.coverageNote.1)]

section

variable (value : Json F)

theorem text_of_ok (field : String) (text : FieldText) :
    textOf value field = .ok text ↔ value = .str text.1 := by
  obtain ⟨own, valid⟩ := text
  cases value with
  | str given =>
    rw [textOf, flowString, Json.str.injEq]
    constructor
    · intro read
      split at read
      · cases read
      · split at read
        · cases read
          rfl
        · cases read
    · intro same
      subst same
      have kept := valid
      rw [validText, Bool.and_eq_true, Bool.and_eq_true, decide_eq_true_iff,
        Bool.not_eq_true'] at kept
      have plain : ¬ (given = "" ∨ given.toList.contains (Char.ofNat 0) = true) := by
        rw [not_or, kept.1.2]
        exact ⟨kept.1.1, Bool.false_ne_true⟩
      rw [if_neg plain, dif_pos valid]
  | _ => simp [textOf]

theorem member_of_ok {α : Type} (members : List α) (text : α → String) (value : Json F)
    (field : String) (member : α) (inside : member ∈ members)
    (valid : validText (text member) = true)
    (apart : ∀ other ∈ members, text other = text member → other = member) :
    memberOf members text value field = .ok member ↔ value = .str (text member) := by
  cases value with
  | str given =>
    rw [memberOf, flowEnum, bind_ok, Json.str.injEq]
    constructor
    · intro read
      obtain ⟨own, first, found⟩ := read
      have same : given = own.1 :=
        Json.str.inj ((text_of_ok (.str given : Json F) field own).mp first)
      split at found
      · rename_i other held
        cases found
        have named : text member = own.1 := by simpa using List.find?_some held
        rw [same, named]
      · cases found
    · intro same
      subst same
      refine ⟨⟨text member, valid⟩,
        (text_of_ok (.str (text member) : Json F) field ⟨text member, valid⟩).mpr rfl, ?_⟩
      have found : members.find? (fun item => text item = text member) = some member :=
        named_text (F := F) members text member inside apart
      rw [found]
  | _ => simp [memberOf]

theorem identified_of_ok (lead : String) (raised : Raised) (value : Json F)
    (identifier : Identified lead) :
    identifiedOf lead raised value = .ok identifier ↔ value = .str identifier.1 := by
  obtain ⟨own, starts⟩ := identifier
  cases value with
  | str given =>
    rw [identifiedOf, Json.str.injEq]
    constructor
    · intro read
      split at read
      · cases read
        rfl
      · cases read
    · intro same
      subst same
      rw [dif_pos starts]
  | _ => simp [identifiedOf]

theorem flow_words_valid : (∀ target ∈ attackerTargets, validText target.text = true) ∧
    (∀ confidence ∈ flowConfidences, validText confidence.text = true) ∧
    ∀ status ∈ coverageStatuses, validText status.text = true := by
  decide

section

variable (field : String)

theorem target_of_ok (target : AttackerTarget) :
    memberOf attackerTargets AttackerTarget.text value field = .ok target ↔
      value = .str target.text := by
  have inside : target ∈ attackerTargets := by cases target <;> decide
  apply member_of_ok _ _ _ _ _ inside (flow_words_valid.1 target inside)
  cases target <;> decide

theorem confidence_of_ok (confidence : FlowConfidence) :
    memberOf flowConfidences FlowConfidence.text value field = .ok confidence ↔
      value = .str confidence.text := by
  have inside : confidence ∈ flowConfidences := by cases confidence <;> decide
  apply member_of_ok _ _ _ _ _ inside (flow_words_valid.2.1 confidence inside)
  cases confidence <;> decide

theorem coverage_of_ok (status : CoverageStatus) :
    memberOf coverageStatuses CoverageStatus.text value field = .ok status ↔
      value = .str status.text := by
  have inside : status ∈ coverageStatuses := by cases status <;> decide
  apply member_of_ok _ _ _ _ _ inside (flow_words_valid.2.2 status inside)
  cases status <;> decide

theorem item_texts_ok (items : List (Json F)) (texts : List String) :
    itemTexts field items = .ok texts ↔
      items = texts.map .str ∧ ∀ text ∈ texts, validText text = true := by
  induction items generalizing texts with
  | nil =>
    constructor
    · intro read
      cases read
      exact ⟨rfl, nofun⟩
    · intro known
      rw [List.map_eq_nil_iff.mp known.1.symm]
      rfl
  | cons item items ih =>
    rw [itemTexts, bind_ok]
    constructor
    · intro read
      obtain ⟨own, first, rest⟩ := read
      obtain ⟨others, next, same⟩ := bind_ok.mp rest
      cases same
      obtain ⟨listed, valid⟩ := (ih others).mp next
      refine ⟨?_, List.forall_mem_cons.mpr ⟨own.2, valid⟩⟩
      rw [List.map_cons, (text_of_ok item field own).mp first, listed]
    · intro known
      obtain ⟨listed, valid⟩ := known
      cases texts with
      | nil => cases listed
      | cons text texts =>
        obtain ⟨first, rest⟩ := List.cons.inj listed
        obtain ⟨own, others⟩ := List.forall_mem_cons.mp valid
        refine ⟨⟨text, own⟩, (text_of_ok item field ⟨text, own⟩).mpr first, ?_⟩
        rw [(ih texts).mpr ⟨rest, others⟩]
        rfl

theorem sequence_of_ok (texts : ItemTexts) :
    sequenceOf value field = .ok texts ↔ itemsOf value field = .ok texts.1 := by
  obtain ⟨own, valid⟩ := texts
  rw [sequenceOf, bind_ok]
  constructor
  · intro read
    obtain ⟨values, first, rest⟩ := read
    split at rest
    · cases rest
      exact first
    · cases rest
  · intro read
    exact ⟨own, read, dif_pos valid⟩

theorem items_of_list (items : List (Json F)) (texts : ItemTexts) :
    itemsOf (.arr items) field = .ok texts.1 ↔ items = texts.1.map .str := by
  obtain ⟨own, valid⟩ := texts
  rw [itemsOf, bind_ok]
  simp only [require_ok, item_texts_ok]
  constructor
  · intro read
    obtain ⟨_, _, listed, _⟩ := read
    exact listed
  · intro listed
    rw [validSequence, Bool.and_eq_true, Bool.and_eq_true] at valid
    obtain ⟨⟨filled, few⟩, each⟩ := valid
    rw [decide_eq_true_iff] at filled few
    refine ⟨(), ?_, listed, List.all_eq_true.mp each⟩
    rw [listed, Bool.and_eq_true, decide_eq_true_iff, decide_eq_true_iff, List.length_map, Ne,
      List.map_eq_nil_iff]
    exact ⟨filled, few⟩

end

end

structure ControlRead (value : Json F) (control : AttackerControl) : Prop where
  held : ∃ record, value = .obj record ∧ fieldSet record = sortedSet controlFields ∧
    get record "target" = .str control.target.text ∧ get record "source" = .str control.source.1 ∧
    get record "sink" = .str control.sink.1

theorem control_of_ok (value : Json F) (control : AttackerControl) :
    controlOf value = .ok control ↔ ControlRead value control := by
  unfold controlOf
  cases value with
  | obj record =>
    simp only [objectOf, bind_ok, require_ok, decide_eq_true_iff, target_of_ok, text_of_ok]
    constructor
    · intro read
      obtain ⟨_, fields, target, targetHeld, source, sourceHeld, sink, sinkHeld, same⟩ := read
      cases same
      exact ⟨record, rfl, fields, targetHeld, sourceHeld, sinkHeld⟩
    · intro read
      obtain ⟨own, same, fields, targetHeld, sourceHeld, sinkHeld⟩ := read.held
      cases same
      exact ⟨(), fields, _, targetHeld, _, sourceHeld, _, sinkHeld, rfl⟩
  | _ =>
    refine iff_of_false (by intro made; cases made) ?_
    intro read
    obtain ⟨_, same, _⟩ := read.held
    cases same

/-- How a proof and the record that it is read from belong together. -/
structure ProofRead (record : Members F) (proof : FlowProof) : Prop where
  fields : fieldSet record = sortedSet proofFields ∨
    fieldSet record = sortedSet (proofFields ++ coverageFields)
  control : ControlRead (get record "attacker_control") proof.attackerControl
  callPath : itemsOf (get record "call_path") "call_path" = .ok proof.callPath
  phaseSequence : itemsOf (get record "phase_sequence") "phase_sequence" = .ok proof.phaseSequence
  entryId : get record "entry_id" = .str proof.entryId
  growthId : get record "growth_id" = .str proof.growthId
  confidence : get record "confidence" = .str proof.confidence.text
  flowKind : getOr record "flow_kind" "data_flow" = .str proof.flowKind.1
  coverageStatus : getOr record "coverage_status" "complete" = .str proof.coverageStatus.text
  coverageNote : getOr record "coverage_note" "normalized" = .str proof.coverageNote.1
  pathId : get record "path_id" = .str proof.pathId

theorem identified_proof_ok (pathId : Json F) (proof : FlowProof) :
    identifiedProof pathId ⟨proof.entryId, proof.entryIdStarts⟩
        ⟨proof.growthId, proof.growthIdStarts⟩ proof.attackerControl
        ⟨proof.callPath, proof.callPathValid⟩ ⟨proof.phaseSequence, proof.phaseSequenceValid⟩
        proof.confidence proof.flowKind proof.coverageStatus proof.coverageNote = .ok proof ↔
      pathId = .str proof.pathId := by
  obtain ⟨path, entry, growth, control, calls, phases, confidence, kind, status, note, entryStarts,
    growthStarts, callsValid, phasesValid, provenComplete, rfl⟩ := proof
  rw [identifiedProof, dif_pos provenComplete, ← is_text]
  split
  · rename_i same
    exact iff_of_true rfl same
  · rename_i other
    exact iff_of_false nofun other

theorem from_dict_ok (record : Members F) (proof : FlowProof) :
    FlowProof.fromDict record = .ok proof ↔ ProofRead record proof := by
  unfold FlowProof.fromDict
  simp only [bind_ok, require_ok, Bool.or_eq_true, decide_eq_true_iff, control_of_ok,
    sequence_of_ok, identified_of_ok, confidence_of_ok, coverage_of_ok, text_of_ok]
  constructor
  · intro run
    obtain ⟨_, fields, control, controlRead, calls, callsRead, phases, phasesRead, entry, entryHeld,
      growth, growthHeld, confidence, confidenceHeld, kind, kindHeld, status, statusHeld, note,
      noteHeld, made⟩ := run
    unfold identifiedProof at made
    split at made
    · split at made
      · rename_i same
        cases made
        exact ⟨fields, controlRead, callsRead, phasesRead, entryHeld, growthHeld, confidenceHeld,
          kindHeld, statusHeld, noteHeld, (is_text _ _).mp same⟩
      · cases made
    · cases made
  · intro read
    exact ⟨(), read.fields, proof.attackerControl, read.control,
      ⟨proof.callPath, proof.callPathValid⟩, read.callPath,
      ⟨proof.phaseSequence, proof.phaseSequenceValid⟩, read.phaseSequence,
      ⟨proof.entryId, proof.entryIdStarts⟩, read.entryId,
      ⟨proof.growthId, proof.growthIdStarts⟩, read.growthId, proof.confidence, read.confidence,
      proof.flowKind, read.flowKind, proof.coverageStatus, read.coverageStatus, proof.coverageNote,
      read.coverageNote, (identified_proof_ok _ proof).mpr read.pathId⟩

theorem members_read (proof : FlowProof) :
    FlowProof.fromDict (proof.members : Members F) = .ok proof := by
  apply (from_dict_ok _ _).mpr
  have items : ∀ (texts : List String) (valid : validSequence texts = true) (field : String),
      itemsOf (.arr (texts.map .str) : Json F) field = .ok texts :=
    fun texts valid field => (items_of_list field _ ⟨texts, valid⟩).mpr rfl
  exact {
    fields := Or.inr rfl
    control := ⟨_, rfl, rfl, rfl, rfl, rfl⟩
    callPath := items _ proof.callPathValid _
    phaseSequence := items _ proof.phaseSequenceValid _
    entryId := rfl
    growthId := rfl
    confidence := rfl
    flowKind := rfl
    coverageStatus := rfl
    coverageNote := rfl
    pathId := rfl }

/-- The record has all fields of a proof, and lists for the sequences. -/
structure FullRecord (record : Members F) : Prop where
  fields : fieldSet record = sortedSet (proofFields ++ coverageFields)
  callPath : ∃ items, get record "call_path" = .arr items
  phaseSequence : ∃ items, get record "phase_sequence" = .arr items

theorem control_exact (value : Json F) (control : AttackerControl) (distinct : DistinctKeys value)
    (read : ControlRead value control) :
    JsonValue.normalize value = JsonValue.normalize (.obj control.members) := by
  obtain ⟨record, rfl, fields, target, source, sink⟩ := read.held
  apply (normalize_obj _ _).mpr
  have own : ((control.members : Members F).map Prod.fst).Nodup := by
    change ["target", "source", "sink"].Nodup
    decide
  apply (normalize_eq_fields record control.members controlFields distinct.1 own fields rfl).mpr
  intro name inside
  simp only [controlFields, List.mem_cons, List.not_mem_nil, or_false] at inside
  rcases inside with rfl | rfl | rfl
  · rw [target]
    rfl
  · rw [source]
    rfl
  · rw [sink]
    rfl

theorem members_distinct (proof : FlowProof) :
    ((proof.members : Members F).map Prod.fst).Nodup := by
  change (proofFields ++ coverageFields).Nodup
  decide

theorem get_or_field (record : Members F) (key default : String)
    (inside : key ∈ record.map Prod.fst) : getOr record key default = get record key := by
  rw [getOr, present_of_field record key inside]
  rfl

theorem items_exact_iff (value : Json F) (field : String) (texts : ItemTexts)
    (read : itemsOf value field = .ok texts.1) :
    JsonValue.normalize value = JsonValue.normalize (.arr (texts.1.map .str)) ↔
      ∃ items, value = .arr items := by
  constructor
  · intro same
    rw [JsonValue.normalize.eq_def (.arr _)] at same
    exact list_of_normalize value _ same
  · intro listed
    obtain ⟨items, rfl⟩ := listed
    rw [(items_of_list field items texts).mp read]

theorem proof_exact_iff (record : Members F) (proof : FlowProof)
    (distinct : DistinctKeys (.obj record)) (read : ProofRead record proof) :
    JsonValue.normalize (.obj record) = JsonValue.normalize (.obj proof.members) ↔
      FullRecord record := by
  have calls := items_exact_iff _ _ ⟨proof.callPath, proof.callPathValid⟩ read.callPath
  have phases := items_exact_iff _ _ ⟨proof.phaseSequence, proof.phaseSequenceValid⟩
    read.phaseSequence
  rw [normalize_obj]
  constructor
  · intro same
    have fields := fields_of_normalize _ _ same
    have each := (normalize_eq_fields record proof.members (proofFields ++ coverageFields)
      distinct.1 (members_distinct proof) fields rfl).mp same
    exact ⟨fields, calls.mp (each "call_path" (by decide)),
      phases.mp (each "phase_sequence" (by decide))⟩
  · intro full
    have keys := (field_set_iff record _).mp full.fields
    apply (normalize_eq_fields record proof.members (proofFields ++ coverageFields)
      distinct.1 (members_distinct proof) full.fields rfl).mpr
    have kind := read.flowKind
    have status := read.coverageStatus
    have note := read.coverageNote
    rw [get_or_field record _ _ ((keys _).mpr (by decide))] at kind status note
    intro name inside
    simp only [proofFields, coverageFields, List.cons_append, List.nil_append, List.mem_cons,
      List.not_mem_nil, or_false] at inside
    rcases inside with rfl | rfl | rfl | rfl | rfl | rfl | rfl | rfl | rfl | rfl
    · rw [read.pathId]
      rfl
    · rw [read.entryId]
      rfl
    · rw [read.growthId]
      rfl
    · exact control_exact _ _ (get_distinct record distinct _) read.control
    · exact calls.mpr full.callPath
    · exact phases.mpr full.phaseSequence
    · rw [read.confidence]
      rfl
    · rw [kind]
      rfl
    · rw [status]
      rfl
    · rw [note]
      rfl

end DosWeb.Flows
