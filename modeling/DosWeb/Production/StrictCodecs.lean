import DosWeb.Production.CodecLaws

/-!
A candidate comes back from its record where its values were plain; a record is read strictly
where nothing of it goes wrong or is lost.
-/

namespace DosWeb.Production

open Library Library.JsonValue Library.JsonRecord Library.JsonText Library.JsonRoundTrip
open Lifecycle (lifecycleEvidence)

variable {F : Type} (codec : Codec)

theorem reserved_apart {name : String} (free : name ∉ reservedNames) :
    name ≠ "site" ∧ name ≠ "site_file" ∧ name ≠ "site_start_line" ∧ name ≠ "evidence" ∧
      name ≠ "cls" := by
  simpa [reservedNames] using free

def siteRecord (candidate : Candidate) : Members F :=
  [("file", .str candidate.siteFile), ("start_line", .int candidate.siteStartLine)]

def plainValues (candidate : Candidate) : Members F :=
  recordValues codec (toDict codec candidate) (siteRecord candidate)

section

theorem zip_keys (names : List String) (items : List (Json F)) :
    List.Sublist ((names.zip items).map Prod.fst) names := by
  induction names generalizing items with
  | nil => exact List.Sublist.refl []
  | cons name names ih =>
    cases items with
    | nil => exact List.nil_sublist _
    | cons item items => exact (ih items).cons_cons name

section

variable (fields : List (String × FieldKind)) (attributes : List Attribute)
  (related : String × FieldKind → Attribute → Prop) (all : List.Forall₂ related fields attributes)

include all

theorem zip_present (key : String) : (key ∉ fields.map Prod.fst ∧
      present ((fields.map Prod.fst).zip (attributes.map Attribute.json) : Members F) key = none) ∨
    ∃ field own, field ∈ fields ∧ field.1 = key ∧ related field own ∧
      present ((fields.map Prod.fst).zip (attributes.map Attribute.json) : Members F) key =
        some own.json := by
  induction all with
  | nil => exact Or.inl ⟨List.not_mem_nil, rfl⟩
  | cons first rest ih =>
    rename_i field own fields attributes
    rw [List.map_cons, List.map_cons, List.zip_cons_cons, present_cons]
    by_cases same : field.1 = key
    · refine Or.inr ⟨field, own, .head _, same, first, ?_⟩
      rw [if_pos same]
    · rw [if_neg same]
      rcases ih with ⟨absent, none_⟩ | ⟨other, given, inside, named, held, found⟩
      · exact Or.inl ⟨fun inside => (List.mem_cons.mp inside).elim (fun equal => same equal.symm)
          absent, none_⟩
      · exact Or.inr ⟨other, given, .tail _ inside, named, held, found⟩

theorem zip_fields (distinct : (fields.map Prod.fst).Nodup) :
    List.Forall₂ (fun field own => field ∈ fields ∧
      present ((fields.map Prod.fst).zip (attributes.map Attribute.json) : Members F) field.1 =
        some own.json ∧ related field own) fields attributes := by
  induction all with
  | nil => exact .nil
  | cons first rest ih =>
    rename_i field own fields attributes
    rw [List.map_cons, List.nodup_cons] at distinct
    refine .cons ⟨.head _, ?_, first⟩ ?_
    · rw [List.map_cons, List.map_cons, List.zip_cons_cons, present_cons, if_pos rfl]
    · apply (ih distinct.2).imp
      intro other given held
      refine ⟨.tail _ held.1, ?_, held.2.2⟩
      have apart : field.1 ≠ other.1 := by
        intro same
        apply distinct.1
        rw [same]
        exact List.mem_map_of_mem held.1
      rw [List.map_cons, List.map_cons, List.zip_cons_cons, present_cons, if_neg apart]
      exact held.2.1

end

variable (candidate : Candidate)

theorem dict_present (key : String) : present (toDict codec candidate : Members F) key =
    if codec.idField = key then some (.str candidate.identifier)
    else if "site" = key then some (.obj (siteRecord candidate))
    else if "evidence" = key then some (.arr (candidate.evidence.map .str))
    else present ((codec.fields.map Prod.fst).zip (candidate.attributes.map Attribute.json)) key := by
  unfold toDict
  rw [List.cons_append, List.cons_append, List.cons_append, List.nil_append, present_cons,
    present_cons, present_cons]
  rfl

theorem dict_field (field : String × FieldKind) (inside : field ∈ codec.fields) (own : Attribute)
    (found : present ((codec.fields.map Prod.fst).zip (candidate.attributes.map Attribute.json) :
      Members F) field.1 = some own.json) :
    present (toDict codec candidate : Members F) field.1 = some own.json := by
  have known : field.1 ∈ codec.fields.map Prod.fst := List.mem_map_of_mem inside
  have free := reserved_apart (codec.free field.1 known)
  have other : codec.idField ≠ field.1 := fun same => codec.idFree.2 (same ▸ known)
  rw [dict_present, if_neg other, if_neg (Ne.symm free.1), if_neg (Ne.symm free.2.2.2.1), found]

theorem dict_distinct : ((toDict codec candidate : Members F).map Prod.fst).Nodup := by
  have names := zip_keys (codec.fields.map Prod.fst)
    (candidate.attributes.map Attribute.json : List (Json F))
  have free : ∀ name ∈ reservedNames, name ∉ codec.fields.map Prod.fst :=
    fun name reserved inside => codec.free name inside reserved
  unfold toDict
  simp only [List.cons_append, List.nil_append, List.map_cons, List.nodup_cons, List.mem_cons,
    not_or]
  have reserved := reserved_apart codec.idFree.1
  refine ⟨⟨reserved.1, reserved.2.2.2.1, ?_⟩, ⟨by decide, ?_⟩, ?_, codec.distinct.sublist names⟩
  · exact fun inside => codec.idFree.2 (names.subset inside)
  · exact fun inside => free "site" (by decide) (names.subset inside)
  · exact fun inside => free "evidence" (by decide) (names.subset inside)

end

section

variable (record site : Members F)

theorem values_present (key : String) : present (recordValues codec record site) key =
      if key = "site" then none else if key = codec.idField then none
      else if key = "site_start_line" then some (get site "start_line")
      else if key = "site_file" then some (get site "file") else present record key := by
  rw [recordValues, present_remove, present_remove, present_put, present_put]

theorem values_line :
    present (recordValues codec record site) "site_start_line" = some (get site "start_line") := by
  have reserved := reserved_apart codec.idFree.1
  rw [values_present, if_neg (by decide), if_neg (Ne.symm reserved.2.2.1), if_pos rfl]

theorem values_file :
    present (recordValues codec record site) "site_file" = some (get site "file") := by
  have reserved := reserved_apart codec.idFree.1
  rw [values_present, if_neg (by decide), if_neg (Ne.symm reserved.2.1), if_neg (by decide),
    if_pos rfl]

theorem values_evidence :
    present (recordValues codec record site) "evidence" = present record "evidence" := by
  have reserved := reserved_apart codec.idFree.1
  rw [values_present, if_neg (by decide), if_neg (Ne.symm reserved.2.2.2.1), if_neg (by decide),
    if_neg (by decide)]

theorem values_field (name : String) (known : name ∈ codec.fields.map Prod.fst) :
    present (recordValues codec record site) name = present record name := by
  have free := reserved_apart (codec.free name known)
  have other : name ≠ codec.idField := fun same => codec.idFree.2 (same ▸ known)
  rw [values_present, if_neg free.1, if_neg other, if_neg free.2.2.1, if_neg free.2.1]

end

theorem semantic_present (values : Members F) (file : String) (line : Int) (evidence : List String)
    (key : String) : present (semantic values file line evidence) key =
      if key = "evidence" then some (.arr (evidence.map .str))
      else if key = "site_start_line" then some (.int line)
      else if key = "site_file" then some (.str file) else present values key := by
  rw [semantic, present_put, present_put, present_put]

variable [FloatText F] (str : Json F → String)

/-- How the candidate and the values it is created of belong together. -/
structure Created (values : Members F) (candidate : Candidate) : Prop where
  file : present values "site_file" = some (.str candidate.siteFile)
  pathValid : sitePathValid candidate.siteFile = true
  line : present values "site_start_line" = some (.int candidate.siteStartLine)
  positive : 0 < candidate.siteStartLine
  evidence : ∃ texts : List String, present values "evidence" = some (.arr (texts.map .str)) ∧
    lifecycleEvidence texts = .ok candidate.evidence
  printed : printable maxIntegerDigits (.obj (semantic values candidate.siteFile
    candidate.siteStartLine candidate.evidence) : Json F) = true
  canonical : candidate.identifier = identifierText codec.lead (semantic values candidate.siteFile
    candidate.siteStartLine candidate.evidence)
  attributes : List.Forall₂ (fun field own => ∃ value, present values field.1 = some value ∧
    ReadAs str field.2 value own) codec.fields candidate.attributes

theorem identifier_ok (lead : String) (identity : Members F) (identifier : String) :
    identifierOf lead identity = .ok identifier ↔
      printable maxIntegerDigits (.obj identity : Json F) = true ∧
        identifier = identifierText lead identity := by
  unfold identifierOf
  split
  · rename_i printed
    simp [printed, eq_comm]
  · rename_i unprinted
    simp [unprinted]

theorem orderly_identifier (lead : String) (identity : Members F) :
    Orderly (identifierOf lead identity) ↔
      printable maxIntegerDigits (.obj identity : Json F) = true := by
  unfold identifierOf
  split
  · rename_i printed
    exact iff_of_true (orderly_ok _) printed
  · rename_i unprinted
    rw [orderly_error]
    simp [unprinted]

theorem create_ok (values : Members F) (candidate : Candidate) :
    create codec str values = .ok candidate ↔ Created codec str values candidate := by
  unfold create
  simp only [bind_ok, member_ok, read_evidence_ok, identifier_ok, read_fields_ok]
  constructor
  · intro run
    obtain ⟨file, fileFound, line, lineFound, ⟨path, number⟩, site, listed, found, evidence,
      ⟨texts, same, accepted⟩, identifier, ⟨printed, canonical⟩, attributes, read, made⟩ := run
    obtain ⟨rfl, valid, rfl, positive⟩ := (read_site_ok _ _ _ _).mp site
    cases made
    exact ⟨fileFound, valid, lineFound, positive, ⟨texts, by rw [found, same], accepted⟩, printed,
      canonical, read⟩
  · intro created
    obtain ⟨texts, found, accepted⟩ := created.evidence
    exact ⟨_, created.file, _, created.line, (candidate.siteFile, candidate.siteStartLine),
      (read_site_ok _ _ _ _).mpr ⟨rfl, created.pathValid, rfl, created.positive⟩, _, found,
      candidate.evidence, ⟨texts, rfl, accepted⟩, candidate.identifier,
      ⟨created.printed, created.canonical⟩, candidate.attributes, created.attributes, rfl⟩

theorem attribute_printed (own : Attribute) :
    printable maxIntegerDigits (own.json : Json F) = true := by
  cases own <;> rfl

theorem put_printed (record : Members F) (key : String) (value : Json F)
    (each : ∀ member ∈ record, printable maxIntegerDigits member.2 = true)
    (own : printable maxIntegerDigits value = true) :
    ∀ member ∈ put key value record, printable maxIntegerDigits member.2 = true := by
  intro member inside
  rcases List.mem_append.mp inside with kept | last
  · exact each member (List.mem_filter.mp kept).1
  · rw [List.mem_singleton.mp last]
    exact own

theorem semantic_printed (values : Members F) (file : String) (line : Int)
    (evidence : List String) (each : ∀ member ∈ values, printable maxIntegerDigits member.2 = true)
    (short : printable maxIntegerDigits (.int line : Json F) = true) :
    printable maxIntegerDigits (.obj (semantic values file line evidence) : Json F) = true := by
  rw [printable, printableMembers_iff]
  exact put_printed _ _ _ (put_printed _ _ _ (put_printed _ _ _ each rfl) short)
    (texts_printed evidence)

theorem plain_printed (candidate : Candidate)
    (short : printable maxIntegerDigits (.int candidate.siteStartLine : Json F) = true) :
    ∀ member ∈ (plainValues codec candidate : Members F),
      printable maxIntegerDigits member.2 = true := by
  have site : ∀ member ∈ (siteRecord candidate : Members F),
      printable maxIntegerDigits member.2 = true := by
    intro member inside
    simp only [siteRecord, List.mem_cons, List.not_mem_nil, or_false] at inside
    rcases inside with rfl | rfl
    · rfl
    · exact short
  have dict : ∀ member ∈ (toDict codec candidate : Members F),
      printable maxIntegerDigits member.2 = true := by
    intro member inside
    rcases List.mem_append.mp inside with first | field
    · simp only [List.mem_cons, List.not_mem_nil, or_false] at first
      rcases first with rfl | rfl | rfl
      · rfl
      · rw [printable, printableMembers_iff]
        exact site
      · exact texts_printed _
    · obtain ⟨own, _, same⟩ := List.mem_map.mp (List.of_mem_zip field).2
      rw [← same]
      exact attribute_printed own
  intro member inside
  have kept := (List.mem_filter.mp (List.mem_filter.mp inside).1).1
  exact put_printed _ _ _ (put_printed _ _ _ dict rfl) short member kept

variable (F) in
def plainIdentifier (candidate : Candidate) : String :=
  identifierText codec.lead (semantic (plainValues codec candidate : Members F) candidate.siteFile
    candidate.siteStartLine candidate.evidence)

variable (texts : ∀ text, str (.str text) = text)
include texts

section

variable (values : Members F) (candidate : Candidate) (created : Created codec str values candidate)

include values created

/-- The candidate's own record is one of a candidate that differs in the identifier at most. -/
theorem plain_created : Created codec str (plainValues codec candidate : Members F)
      { candidate with identifier := plainIdentifier F codec candidate } := by
  have short : printable maxIntegerDigits (.int candidate.siteStartLine : Json F) = true := by
    have printed := created.printed
    rw [printable, printableMembers_iff] at printed
    have distinct : present (semantic values candidate.siteFile candidate.siteStartLine
        candidate.evidence) "site_start_line" = some (.int candidate.siteStartLine) := by
      rw [semantic_present, if_neg (by decide), if_pos rfl]
    obtain ⟨member, found, same⟩ := Option.map_eq_some_iff.mp distinct
    have line := printed member (List.mem_of_find?_eq_some found)
    rwa [same] at line
  obtain ⟨listed, _, accepted⟩ := created.evidence
  exact {
    file := values_file codec _ _
    pathValid := created.pathValid
    line := values_line codec _ _
    positive := created.positive
    evidence := by
      refine ⟨candidate.evidence, ?_, (evidence_again listed candidate.evidence accepted).1⟩
      rw [plainValues, values_evidence, dict_present]
      have reserved := reserved_apart codec.idFree.1
      rw [if_neg reserved.2.2.2.1, if_neg (by decide), if_pos rfl]
    printed := semantic_printed _ _ _ _ (plain_printed codec candidate short) short
    canonical := rfl
    attributes := by
      apply (zip_fields (F := F) codec.fields candidate.attributes _ created.attributes
        codec.distinct).imp
      intro field own held
      obtain ⟨name, kind⟩ := field
      obtain ⟨inside, found, value, _, read⟩ := held
      refine ⟨own.json, ?_, ?_⟩
      · rw [plainValues, values_field codec _ _ _ (List.mem_map_of_mem inside)]
        exact dict_field codec candidate (name, kind) inside own found
      · cases read with
        | text =>
          have again : ReadAs str .text (.str (str value)) (.text (str (.str (str value)))) :=
            .text (.str (str value))
          rw [texts] at again
          exact again
        | flag given => exact .flag given }

variable [DecidableEq F]

/-- A candidate comes back from its record exactly where its identifier is the record's own. -/
theorem read_back_iff : fromDict codec str (toDict codec candidate : Members F) = .ok candidate ↔
      candidate.identifier = plainIdentifier F codec candidate := by
  have reserved := reserved_apart codec.idFree.1
  have site : get (toDict codec candidate : Members F) "site" = .obj (siteRecord candidate) := by
    rw [JsonRecord.get, dict_present, if_neg reserved.1, if_pos rfl]
    rfl
  have identifier : get (toDict codec candidate : Members F) codec.idField =
      .str candidate.identifier := by
    rw [JsonRecord.get, dict_present, if_pos rfl]
    rfl
  have called : "cls" ∉ (toDict codec candidate : Members F).map Prod.fst := by
    have absent : "cls" ∉ codec.fields.map Prod.fst := fun inside =>
      codec.free "cls" inside (by decide)
    rw [mem_keys_iff, not_not, dict_present, if_neg reserved.2.2.2.2, if_neg (by decide),
      if_neg (by decide)]
    rcases zip_present (F := F) codec.fields candidate.attributes _ created.attributes "cls" with
      missing | found
    · exact missing.2
    · obtain ⟨field, own, inside, same, _⟩ := found
      exact absurd (same ▸ List.mem_map_of_mem inside) absent
  have again := (create_ok codec str _ _).mpr (plain_created codec str texts values candidate created)
  rw [fromDict, site]
  simp only [objectOf]
  rw [if_neg called, show recordValues codec (toDict codec candidate : Members F)
    (siteRecord candidate) = plainValues codec candidate from rfl, again, identifier]
  constructor
  · intro read
    simp only [bind, Except.bind, Json.str.injEq] at read
    split at read
    · assumption
    · cases read
  · intro same
    simp only [bind, Except.bind, Json.str.injEq]
    rw [if_pos same]
    exact congrArg Except.ok (by rw [← same])

end

end DosWeb.Production
