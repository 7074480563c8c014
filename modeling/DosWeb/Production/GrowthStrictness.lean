import DosWeb.Production.GrowthCodec

/-!
Which records of growth candidates are read strictly: returned as they are, or refused by an error
of the analyzer.
-/

namespace DosWeb.Production

open Library Library.JsonValue Library.JsonRecord Library.JsonText Library.OrderedSet
open Entries (normalPath)
open Growth

section

variable {F : Type}

theorem texts_exact_iff (texts : List String) :
    JsonValue.normalize (.arr ((sortedSet texts).map .str) : Json F) =
        JsonValue.normalize (.arr (texts.map .str)) ↔ texts.Pairwise (· < ·) := by
  rw [normalize_arr, List.map_map, List.map_map, ← sortedSet_eq_self_iff]
  constructor
  · exact fun same => List.map_injective_iff.mpr (fun one other equal => Json.str.inj equal) same
  · intro same
    rw [same]

theorem demand_of_iff (item : Json F) (members : Members F) : demandOf item = some members ↔
      item = .obj members ∧ fieldSet members = sortedSet demandFields := by
  unfold demandOf
  cases item with
  | obj own =>
    simp only [objectOf, Option.filter_some, Json.obj.injEq]
    split
    · rename_i fields
      rw [Option.some_inj]
      constructor
      · rintro rfl
        exact ⟨rfl, of_decide_eq_true fields⟩
      · exact fun both => both.1
    · rename_i fields
      refine iff_of_false (by simp) ?_
      rintro ⟨rfl, same⟩
      exact fields (decide_eq_true same)
  | _ => simp [objectOf]

theorem demand_members_distinct (demand : DemandInput) :
    ((demandMembers demand : Members F).map Prod.fst).Nodup := by
  change demandFields.Nodup
  decide

/-- An item is the record of a demand where it has the fields of one and writes it down. -/
theorem demand_exact_iff (item : Json F) (distinct : DistinctKeys item) (demand : DemandInput) :
    JsonValue.normalize (.obj (demandMembers demand)) = JsonValue.normalize item ↔
      ∃ members, demandOf item = some members ∧ Writes members demand := by
  simp only [demand_of_iff]
  cases item with
  | obj members =>
    rw [eq_comm, normalize_obj]
    constructor
    · intro same
      have fields := fields_of_normalize _ _ same
      have each := (normalize_eq_fields members (demandMembers demand) demandFields distinct.1
        (demand_members_distinct demand) fields rfl).mp same
      have name := (normalize_str _ _).mp (each "name" (by decide))
      have role := (normalize_str _ _).mp (each "role" (by decide))
      exact ⟨members, ⟨rfl, fields⟩, name, role⟩
    · rintro ⟨own, ⟨same, fields⟩, name, role⟩
      cases same
      apply (normalize_eq_fields members (demandMembers demand) demandFields distinct.1
        (demand_members_distinct demand) fields rfl).mpr
      intro key inside
      simp only [demandFields, List.mem_cons, List.not_mem_nil, or_false] at inside
      rcases inside with rfl | rfl
      · rw [name]
        rfl
      · rw [role]
        rfl
  | _ => simp [JsonValue.normalize]

theorem writes_same (members : Members F) (left right : DemandInput) (one : Writes members left)
    (other : Writes members right) : left = right := by
  have name := Json.str.inj (one.1.symm.trans other.1)
  have role := Json.str.inj (one.2.symm.trans other.2)
  obtain ⟨leftName, leftRole⟩ := left
  obtain ⟨rightName, rightRole⟩ := right
  obtain rfl : leftName = rightName := Subtype.ext name
  obtain rfl := DemandRole.text_injective _ _ role
  rfl

theorem writes_unique (items : List (Members F)) (left right : List DemandInput)
    (one : List.Forall₂ Writes items left) (other : List.Forall₂ Writes items right) :
    left = right := by
  induction one generalizing right with
  | nil =>
    cases other
    rfl
  | cons first _ ih =>
    cases other with
    | cons again rest => rw [ih _ rest, writes_same _ _ _ first again]

def demandRecord (demand : DemandInput) : Json F := .obj (demandMembers demand)

theorem demands_whole (items : List (Json F)) (distinct : ∀ item ∈ items, DistinctKeys item)
    (each : ∀ item ∈ items, (demandOf item).isSome = true) (demands : List DemandInput)
    (read : List.Forall₂ Writes (items.filterMap demandOf) demands) :
    (demands.map demandRecord).map JsonValue.normalize = items.map JsonValue.normalize := by
  induction items generalizing demands with
  | nil =>
    cases read
    rfl
  | cons item items ih =>
    obtain ⟨own, others⟩ := List.forall_mem_cons.mp each
    obtain ⟨apart, rest⟩ := List.forall_mem_cons.mp distinct
    obtain ⟨members, found⟩ := Option.isSome_iff_exists.mp own
    rw [List.filterMap_cons_some found] at read
    cases read with
    | cons first later =>
      rename_i demand demands
      rw [List.map_cons, List.map_cons, List.map_cons, ih rest others demands later,
        demandRecord, (demand_exact_iff item apart demand).mpr ⟨members, found, first⟩]

theorem demand_record_injective (left right : DemandInput)
    (same : JsonValue.normalize (demandRecord left : Json F) =
      JsonValue.normalize (demandRecord right)) : left = right := by
  rw [demandRecord, demandRecord, normalize_obj] at same
  have each := (normalize_eq_fields _ _ demandFields (demand_members_distinct left)
    (demand_members_distinct right) rfl rfl).mp same
  have name : left.name.1 = right.name.1 := Json.str.inj (each "name" (by decide))
  have role : left.role.text = right.role.text := Json.str.inj (each "role" (by decide))
  obtain ⟨leftName, leftRole⟩ := left
  obtain ⟨rightName, rightRole⟩ := right
  obtain rfl : leftName = rightName := Subtype.ext name
  obtain rfl := DemandRole.text_injective _ _ role
  rfl

theorem demands_exact_iff (items : List (Json F)) (distinct : ∀ item ∈ items, DistinctKeys item)
    (demands : List DemandInput) (read : List.Forall₂ Writes (items.filterMap demandOf) demands) :
    JsonValue.normalize (.arr ((sortedSet demands).map demandRecord)) =
        JsonValue.normalize (.arr items) ↔
      (∀ item ∈ items, (demandOf item).isSome = true) ∧ demands.Pairwise (· < ·) := by
  rw [normalize_arr]
  constructor
  · intro same
    have each : ∀ item ∈ items, (demandOf item).isSome = true := by
      intro item member
      have listed : JsonValue.normalize item ∈
          ((sortedSet demands).map demandRecord).map JsonValue.normalize := by
        rw [same]
        exact List.mem_map_of_mem member
      obtain ⟨record, inside, own⟩ := List.mem_map.mp listed
      obtain ⟨demand, -, rfl⟩ := List.mem_map.mp inside
      obtain ⟨members, found, -⟩ := (demand_exact_iff item (distinct item member) demand).mp own
      rw [found]
      rfl
    refine ⟨each, ?_⟩
    rw [← demands_whole items distinct each demands read, List.map_map, List.map_map] at same
    rw [← sortedSet_eq_self_iff]
    exact List.map_injective_iff.mpr (fun left right => demand_record_injective left right) same
  · rintro ⟨each, increasing⟩
    rw [(sortedSet_eq_self_iff demands).mpr increasing]
    exact demands_whole items distinct each demands read

/-- A record as its candidate is written: its path is in normal form, each item of its demands is
one, and demands, evidence and notes are in increasing order. -/
structure WrittenAs (parts : CandidateParts F) : Prop where
  path : ∃ path : String, get parts.site "file" = .str path ∧
    normalPath path.toList = some path.toList
  demands : ∀ item ∈ parts.demands, (demandOf item).isSome = true
  demandsOrdered : ∀ demands, List.Forall₂ Writes (parts.demands.filterMap demandOf) demands →
    demands.Pairwise (· < ·)
  evidence : ∀ texts : List String, parts.evidence = texts.map .str → texts.Pairwise (· < ·)
  notes : ∀ texts : List String, parts.notes = texts.map .str → texts.Pairwise (· < ·)

variable (candidate : GrowthCandidate)

theorem candidate_members_distinct :
    ((candidateMembers candidate : Members F).map Prod.fst).Nodup := by
  change candidateFields.Nodup
  decide

theorem site_members_distinct (site : SourceLocation) :
    ((siteMembers site : Members F).map Prod.fst).Nodup := by
  change siteFields.Nodup
  decide

theorem point_members_distinct : ((pointMembers candidate : Members F).map Prod.fst).Nodup := by
  change pointFields.Nodup
  decide

theorem path_ok (file : Json F) (field : String) (path : Entries.SourcePath) :
    growthPath file field = .ok path ↔
      ∃ text : String, file = .str text ∧ Entries.validText text = true ∧
        normalPath text.toList = some path.1.toList := by
  rw [growthPath, bind_ok]
  constructor
  · rintro ⟨text, read, rest⟩
    refine ⟨text.1, (growth_string_ok file field text).mp read, text.2, ?_⟩
    split at rest
    · rename_i normal found
      cases rest
      simpa using found
    · cases rest
  · rintro ⟨text, rfl, valid, found⟩
    refine ⟨⟨text, valid⟩, (growth_string_ok _ field ⟨text, valid⟩).mpr rfl, ?_⟩
    split
    · rename_i normal own
      have equal : path.1.toList = normal := Option.some_inj.mp (found.symm.trans own)
      rw [Except.ok.injEq]
      apply Subtype.ext
      change String.ofList normal = path.1
      rw [← equal, String.ofList_toList]
    · rename_i own
      rw [found] at own
      cases own

theorem line_ok (line : Json F) (field : String) (number : SourceLine) :
    growthLine line field = .ok number ↔ line = .int number.1 := by
  obtain ⟨own, positive, small⟩ := number
  cases line with
  | int given =>
    rw [growthLine, Json.int.injEq]
    constructor
    · intro read
      split at read
      · rename_i within
        have same : given.toNat = own := congrArg Subtype.val (Except.ok.inj read)
        change given = (own : Int)
        omega
      · cases read
    · rintro rfl
      have within : (1 : Int) ≤ own ∧ (own : Int) ≤ 2147483647 := by omega
      rw [dif_pos within, Except.ok.injEq]
      exact Subtype.ext (Int.toNat_natCast own)
  | _ => simp [growthLine]

theorem location_ok (file line : Json F) (site : SourceLocation) :
    sourceLocation file line = .ok site ↔
      (∃ text : String, file = .str text ∧ Entries.validText text = true ∧
        normalPath text.toList = some site.file.1.toList) ∧ line = .int site.startLine.1 := by
  obtain ⟨path, number⟩ := site
  simp only [sourceLocation, bind_ok, path_ok, line_ok]
  constructor
  · rintro ⟨own, found, given, rfl, same⟩
    cases same
    exact ⟨found, rfl⟩
  · rintro ⟨found, rfl⟩
    exact ⟨path, found, number, rfl, rfl⟩

theorem site_exact_iff (site : Members F) (distinct : DistinctKeys (.obj site))
    (fields : fieldSet site = sortedSet siteFields) (location : SourceLocation)
    (sited : sourceLocation (get site "file") (get site "start_line") = .ok location) :
    JsonValue.normalize (.obj (siteMembers location)) = JsonValue.normalize (.obj site) ↔
      ∃ path : String, get site "file" = .str path ∧ normalPath path.toList = some path.toList := by
  obtain ⟨⟨path, file, -, normal⟩, line⟩ := (location_ok _ _ location).mp sited
  rw [eq_comm, normalize_obj, normalize_eq_fields site (siteMembers location) siteFields distinct.1
    (site_members_distinct location) fields rfl]
  constructor
  · intro same
    have own := (normalize_str _ _).mp (same "file" (by decide))
    exact ⟨location.file.1, own, location.file.2.2⟩
  · rintro ⟨other, again, fixed⟩ key inside
    obtain rfl := Json.str.inj (file.symm.trans again)
    have equal : location.file.1 = path :=
      String.toList_injective (Option.some_inj.mp (normal.symm.trans fixed))
    simp only [siteFields, List.mem_cons, List.not_mem_nil, or_false] at inside
    rcases inside with rfl | rfl
    · rw [file, ← equal]
      rfl
    · rw [line]
      rfl

theorem point_exact (parts : CandidateParts F) (distinct : DistinctKeys (.obj parts.point))
    (fields : fieldSet parts.point = sortedSet pointFields)
    (represents : Represents parts candidate) :
    JsonValue.normalize (.obj (pointMembers candidate)) =
      JsonValue.normalize (.obj parts.point) := by
  rw [eq_comm, normalize_obj, normalize_eq_fields parts.point (pointMembers candidate) pointFields
    distinct.1 (point_members_distinct candidate) fields rfl]
  intro key inside
  simp only [pointFields, List.mem_cons, List.not_mem_nil, or_false] at inside
  rcases inside with rfl | rfl | rfl | rfl
  · rw [represents.resourceId]
    rfl
  · rw [represents.fields.dimension]
    rfl
  · rw [represents.fields.receiver]
    rfl
  · rw [represents.fields.fieldPath]
    rfl

theorem candidate_exact_iff (value : Json F) (distinct : DistinctKeys value)
    (parts : CandidateParts F) (found : partsOf value = some parts)
    (represents : Represents parts candidate) :
    JsonValue.normalize (.obj (candidateMembers candidate)) = JsonValue.normalize value ↔
      WrittenAs parts := by
  obtain ⟨rfl, fields, sited, siteNamed, pointed, pointNamed, listed, given, noted⟩ :=
    (parts_of_iff value parts).mp found
  have apart (key : String) (own : Json F) (held : get parts.record key = own) :
      DistinctKeys own := held ▸ get_distinct parts.record distinct key
  obtain ⟨demands, read, demandsSame⟩ := represents.demands
  obtain ⟨evidence, evidenceTexts, evidenceSame⟩ := represents.evidence
  obtain ⟨notes, noteTexts, notesSame⟩ := represents.notes
  have site := site_exact_iff parts.site (apart "site" _ sited) siteNamed candidate.site
    represents.site
  have point := point_exact candidate parts (apart "resource_point" _ pointed) pointNamed represents
  have items := demands_exact_iff parts.demands
    ((distinctItems_iff _).mp (apart "demand_inputs" _ listed)) demands read
  have evidenceExact := texts_exact_iff (F := F) evidence
  have notesExact := texts_exact_iff (F := F) notes
  rw [← demandsSame] at items
  rw [← evidenceSame, ← evidenceTexts] at evidenceExact
  rw [← notesSame, ← noteTexts] at notesExact
  rw [eq_comm, normalize_obj, normalize_eq_fields parts.record (candidateMembers candidate)
    candidateFields distinct.1 (candidate_members_distinct candidate) fields rfl]
  constructor
  · intro same
    have siteSame := same "site" (by decide)
    have demandSame := same "demand_inputs" (by decide)
    have evidenceAgain := same "candidate_evidence" (by decide)
    have notesAgain := same "coverage_notes" (by decide)
    rw [sited] at siteSame
    rw [listed] at demandSame
    rw [given] at evidenceAgain
    rw [noted] at notesAgain
    obtain ⟨each, increasing⟩ := items.mp demandSame.symm
    refine ⟨site.mp siteSame.symm, each, ?_, ?_, ?_⟩
    · intro others again
      rw [writes_unique _ _ _ again read]
      exact increasing
    · intro others again
      rw [List.map_injective_iff.mpr (fun _ _ => Json.str.inj) (again.symm.trans evidenceTexts)]
      exact evidenceExact.mp evidenceAgain.symm
    · intro others again
      rw [List.map_injective_iff.mpr (fun _ _ => Json.str.inj) (again.symm.trans noteTexts)]
      exact notesExact.mp notesAgain.symm
  · intro written key inside
    simp only [candidateFields, List.mem_cons, List.not_mem_nil, or_false] at inside
    rcases inside with rfl | rfl | rfl | rfl | rfl | rfl | rfl | rfl | rfl | rfl
    · rw [represents.growthId]
      rfl
    · rw [sited]
      exact (site.mpr written.path).symm
    · rw [represents.fields.kind]
      rfl
    · rw [represents.fields.operation]
      rfl
    · rw [pointed]
      exact point.symm
    · rw [listed]
      exact (items.mpr ⟨written.demands, written.demandsOrdered demands read⟩).symm
    · rw [represents.fields.scope]
      rfl
    · rw [given]
      exact (evidenceExact.mpr (written.evidence evidence evidenceTexts)).symm
    · rw [represents.fields.status]
      rfl
    · rw [noted]
      exact (notesExact.mpr (written.notes notes noteTexts)).symm

end

section

variable {F : Type} [FloatText F]

/-- A record is read strictly: it is returned as it is, or refused by an error of the analyzer. -/
def StrictCandidate (value : Json F) : Prop :=
  Orderly (candidateFromDict value) ∧ ∀ candidate, candidateFromDict value = .ok candidate →
    JsonValue.normalize (.obj (candidateMembers candidate)) = JsonValue.normalize value

/-- A record whose sets and digests can be made once its site and demands are read, and that is
written as the candidate it stands for. -/
structure RegularCandidate (value : Json F) : Prop where
  hashed : ∀ parts, partsOf value = some parts →
    (∃ site, sourceLocation (get parts.site "file") (get parts.site "start_line") = .ok site) →
    (∃ demands, readDemands parts.demands = .ok demands) → Hashed parts
  written : ∀ parts candidate, partsOf value = some parts → Represents parts candidate →
    WrittenAs parts

theorem strict_candidate_iff (value : Json F) (distinct : DistinctKeys value) :
    StrictCandidate value ↔ RegularCandidate value := by
  unfold StrictCandidate
  simp only [orderly_from_dict, from_dict_ok]
  constructor
  · rintro ⟨hashed, exact_⟩
    refine ⟨hashed, ?_⟩
    intro parts candidate found represents
    exact (candidate_exact_iff candidate value distinct parts found represents).mp
      (exact_ candidate ⟨parts, found, represents⟩)
  · rintro ⟨hashed, written⟩
    refine ⟨hashed, ?_⟩
    rintro candidate ⟨parts, found, represents⟩
    exact (candidate_exact_iff candidate value distinct parts found represents).mpr
      (written parts candidate found represents)

def ownParts (candidate : GrowthCandidate) : CandidateParts F :=
  ⟨candidateMembers candidate, siteMembers candidate.site, pointMembers candidate,
    candidate.demandInputs.map demandRecord, candidate.evidenceIds.values.map .str,
    candidate.coverageNotes.values.map .str⟩

omit [FloatText F] in
theorem own_demands (demands : List DemandInput) :
    List.Forall₂ Writes ((demands.map demandRecord : List (Json F)).filterMap demandOf)
      demands := by
  induction demands with
  | nil => exact .nil
  | cons demand demands ih =>
    have own : demandOf (demandRecord demand : Json F) = some (demandMembers demand) :=
      (demand_of_iff _ _).mpr ⟨rfl, rfl⟩
    rw [List.map_cons, List.filterMap_cons_some own]
    exact .cons ⟨rfl, rfl⟩ ih

omit [FloatText F] in
theorem own_represents (candidate : GrowthCandidate) :
    Represents (ownParts candidate : CandidateParts F) candidate := by
  refine ⟨?_, ⟨rfl, rfl, rfl, rfl, rfl, rfl, rfl⟩, ?_, ?_, ?_, rfl, rfl⟩
  · exact (location_ok _ _ candidate.site).mpr
      ⟨⟨candidate.site.file.1, rfl, candidate.site.file.2.1, candidate.site.file.2.2⟩, rfl⟩
  · exact ⟨candidate.demandInputs, own_demands candidate.demandInputs,
      (sortedSet_of_increasing _ candidate.demandsOrdered).symm⟩
  · exact ⟨candidate.evidenceIds.values, rfl,
      (sortedSet_of_increasing _ candidate.evidenceIds.ordered).symm⟩
  · exact ⟨candidate.coverageNotes.values, rfl,
      (sortedSet_of_increasing _ candidate.coverageNotes.ordered).symm⟩

theorem candidate_read_back (candidate : GrowthCandidate) :
    candidateFromDict (.obj (candidateMembers candidate) : Json F) = .ok candidate := by
  apply (from_dict_ok _ candidate).mpr
  refine ⟨ownParts candidate, ?_, own_represents candidate⟩
  exact (parts_of_iff _ _).mpr ⟨rfl, rfl, rfl, rfl, rfl, rfl, rfl, rfl, rfl⟩

/-- Every candidate comes back from its record, and a record is read strictly exactly where it is a
regular one. -/
theorem growth_codec_iff :
    (∀ candidate, candidateFromDict (.obj (candidateMembers candidate) : Json F) = .ok candidate) ∧
      ∀ value : Json F, DistinctKeys value → (StrictCandidate value ↔ RegularCandidate value) :=
  ⟨candidate_read_back, strict_candidate_iff⟩

end

/-- The members of a candidate's record with one more item among its demands. -/
def extendedMembers (candidate : GrowthCandidate) (item : PlainJson) : Members Empty :=
  (candidateMembers candidate).map fun member =>
    if member.1 = "demand_inputs" then
      (member.1, .arr (candidate.demandInputs.map demandRecord ++ [item]))
    else member

def extendedParts (candidate : GrowthCandidate) (item : PlainJson) : CandidateParts Empty :=
  { ownParts candidate with
    record := extendedMembers candidate item
    demands := candidate.demandInputs.map demandRecord ++ [item] }

variable (candidate : GrowthCandidate)

theorem extended_represents (item : PlainJson)
    (other : demandOf item = none) : Represents (extendedParts candidate item) candidate := by
  have listed : (extendedParts candidate item).demands.filterMap demandOf =
      (candidate.demandInputs.map demandRecord).filterMap demandOf := by
    rw [extendedParts, List.filterMap_append, List.filterMap_cons_none other, List.filterMap_nil,
      List.append_nil]
  refine ⟨?_, ⟨rfl, rfl, rfl, rfl, rfl, rfl, rfl⟩, ?_, ?_, ?_, rfl, rfl⟩
  · exact (own_represents candidate).site
  · rw [listed]
    exact (own_represents candidate).demands
  · exact (own_represents candidate).evidence
  · exact (own_represents candidate).notes

theorem item_passed_over (item : PlainJson) (other : demandOf item = none) :
    candidateFromDict (.obj (extendedMembers candidate item)) = .ok candidate := by
  apply (from_dict_ok _ candidate).mpr
  refine ⟨extendedParts candidate item, ?_, extended_represents candidate item other⟩
  exact (parts_of_iff _ _).mpr ⟨rfl, rfl, rfl, rfl, rfl, rfl, rfl, rfl, rfl⟩

theorem demand_records_distinct (demands : List DemandInput) (others : List (Json F))
    (distinct : ∀ item ∈ others, DistinctKeys item) :
    DistinctKeys (.arr (demands.map demandRecord ++ others)) := by
  apply (distinctItems_iff _).mpr
  intro item member
  rcases List.mem_append.mp member with own | own
  · obtain ⟨demand, -, rfl⟩ := List.mem_map.mp own
    exact ⟨demand_members_distinct demand, trivial, trivial, trivial⟩
  · exact distinct item own

theorem extended_distinct (item : PlainJson)
    (distinct : DistinctKeys item) : DistinctKeys (.obj (extendedMembers candidate item)) := by
  refine ⟨?_, trivial, ⟨site_members_distinct _, trivial, trivial, trivial⟩, trivial,
    trivial, ⟨point_members_distinct _, trivial, trivial, trivial, trivial, trivial⟩, ?_, trivial,
    ?_, trivial, ?_, trivial⟩
  · change candidateFields.Nodup
    decide
  · exact demand_records_distinct _ _ (List.forall_mem_singleton.mpr distinct)
  · exact texts_distinct _
  · exact texts_distinct _

/-- A record is accepted under the identity of a candidate that it does not write down. -/
theorem junk_demand_accepted :
    ¬ ∀ value : PlainJson, DistinctKeys value → StrictCandidate value := by
  intro strict
  have accepted := item_passed_over sampleCandidate (.str "junk") rfl
  have same := (strict _ (extended_distinct sampleCandidate (.str "junk") trivial)).2 _ accepted
  have each := normalize_eq_fields _ _ candidateFields (candidate_members_distinct sampleCandidate)
    (extended_distinct sampleCandidate (.str "junk") trivial).1 rfl rfl
  have demands := each.mp (by rwa [normalize_obj] at same) "demand_inputs" (by decide)
  cases demands

theorem candidate_distinct : DistinctKeys (.obj (candidateMembers candidate) : PlainJson) := by
  refine ⟨candidate_members_distinct candidate, trivial,
    ⟨site_members_distinct _, trivial, trivial, trivial⟩, trivial, trivial,
    ⟨point_members_distinct _, trivial, trivial, trivial, trivial, trivial⟩, ?_, trivial, ?_,
    trivial, ?_, trivial⟩
  · have records := demand_records_distinct (F := Empty) candidate.demandInputs [] nofun
    rwa [List.append_nil] at records
  · exact texts_distinct _
  · exact texts_distinct _

theorem growth_codec_sample :
    candidateFromDict (.obj (candidateMembers sampleCandidate) : PlainJson) = .ok sampleCandidate ∧
      (StrictCandidate (.obj (candidateMembers sampleCandidate) : PlainJson) ↔
        RegularCandidate (.obj (candidateMembers sampleCandidate) : PlainJson)) :=
  ⟨growth_codec_iff.1 sampleCandidate, growth_codec_iff.2 _ (candidate_distinct sampleCandidate)⟩

end DosWeb.Production
