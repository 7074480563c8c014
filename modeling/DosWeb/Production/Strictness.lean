import DosWeb.Production.StrictCodecs

/-!
When the records of candidates are strict: what is created comes back, and what is read is all
that a record holds.
-/

namespace DosWeb.Production

open Library Library.JsonValue Library.JsonRecord Library.JsonText
open Library.OrderedSet Identifiers
open Lifecycle (lifecycleInvalid lifecycleEvidence)

variable {F : Type} (codec : Codec)

/-- The values are those of the fields, and those of text fields are texts. -/
structure Plain (values : Members F) : Prop where
  named : ∀ key ∈ values.map Prod.fst,
    key ∈ ["site_file", "site_start_line", "evidence"] ∨ key ∈ codec.fields.map Prod.fst
  texts : ∀ field ∈ codec.fields, field.2 = .text → ∃ text, present values field.1 = some (.str text)

theorem normal_texts (texts : List String) :
    JsonValue.normalize (.arr (texts.map .str) : Json F) = .arr (texts.map .str) := by
  rw [JsonValue.normalize, normalizeItems_eq_map, List.map_map]
  rfl

theorem present_of_get (record : Members F) (key : String) (value : Json F)
    (found : get record key = value) (filled : value ≠ .null) : present record key = some value := by
  rw [JsonRecord.get] at found
  cases there : present record key with
  | none =>
    rw [there] at found
    exact absurd found.symm filled
  | some held =>
    rw [there] at found
    rw [← found]
    rfl

theorem plain_distinct (candidate : Candidate) :
    ((plainValues codec candidate : Members F).map Prod.fst).Nodup :=
  remove_distinct _ _ (remove_distinct _ _ (put_distinct _ _ _ (put_distinct _ _ _
    (dict_distinct codec candidate))))

theorem semantic_distinct (values : Members F) (file : String) (line : Int) (evidence : List String)
    (distinct : (values.map Prod.fst).Nodup) :
    ((semantic values file line evidence).map Prod.fst).Nodup :=
  put_distinct _ _ _ (put_distinct _ _ _ (put_distinct _ _ _ distinct))

theorem semantic_distinct_keys (values : Members F) (file : String) (line : Int)
    (evidence : List String) (distinct : DistinctKeys (.obj values)) :
    DistinctKeys (.obj (semantic values file line evidence)) := by
  apply put_distinct_keys
  · exact put_distinct_keys _ _ _ (put_distinct_keys _ _ _ distinct trivial) trivial
  · simp only [DistinctKeys, distinctItems_iff]
    intro item inside
    obtain ⟨text, _, rfl⟩ := List.mem_map.mp inside
    trivial

theorem plain_distinct_keys (candidate : Candidate) :
    DistinctKeys (.obj (plainValues codec candidate : Members F)) := by
  refine ⟨plain_distinct codec candidate, (distinctMembers_iff _).mpr ?_⟩
  have dict : DistinctKeys (.obj (toDict codec candidate : Members F)) := by
    refine ⟨dict_distinct codec candidate, (distinctMembers_iff _).mpr ?_⟩
    intro member inside
    rcases List.mem_append.mp inside with first | field
    · simp only [List.mem_cons, List.not_mem_nil, or_false] at first
      rcases first with rfl | rfl | rfl
      · trivial
      · exact ⟨by simp, (distinctMembers_iff _).mpr (by simp [DistinctKeys])⟩
      · simp only [DistinctKeys, distinctItems_iff]
        intro item listed
        obtain ⟨text, _, rfl⟩ := List.mem_map.mp listed
        trivial
    · obtain ⟨own, _, same⟩ := List.mem_map.mp (List.of_mem_zip field).2
      rw [← same]
      cases own <;> trivial
  have all := remove_distinct_keys _ "site" (remove_distinct_keys _ codec.idField
    (put_distinct_keys _ "site_start_line" (.int candidate.siteStartLine)
      (put_distinct_keys _ "site_file" (.str candidate.siteFile) dict trivial) trivial))
  exact (distinctMembers_iff _).mp all.2

section

variable [FloatText F] (str : Json F → String) (texts : ∀ text, str (.str text) = text)

/-- What the candidate's own values have under a name that is none of the three of the site and
the evidence. -/
theorem plain_present (values : Members F) (candidate : Candidate)
    (created : Created codec str values candidate) (key : String)
    (other : key ∉ ["site_file", "site_start_line", "evidence"]) :
    (key ∉ codec.fields.map Prod.fst ∧ present (plainValues codec candidate : Members F) key = none) ∨
    ∃ field own value, field ∈ codec.fields ∧ field.1 = key ∧ present values key = some value ∧
      ReadAs str field.2 value own ∧
        present (plainValues codec candidate : Members F) key = some own.json := by
  simp only [List.mem_cons, List.not_mem_nil, or_false, not_or] at other
  rcases zip_present (F := F) codec.fields candidate.attributes _ created.attributes key with
    ⟨absent, missing⟩ | ⟨field, own, inside, same, ⟨value, found, read⟩, held⟩
  · refine Or.inl ⟨absent, ?_⟩
    rw [plainValues, values_present]
    split
    · rfl
    · rename_i unsited
      split
      · rfl
      · rename_i unnamed
        rw [if_neg other.2.1, if_neg other.1, dict_present, if_neg (Ne.symm unnamed),
          if_neg (Ne.symm unsited), if_neg (Ne.symm other.2.2)]
        exact missing
  · subst same
    refine Or.inr ⟨field, own, value, inside, rfl, found, read, ?_⟩
    rw [plainValues, values_field codec _ _ _ (List.mem_map_of_mem inside)]
    exact dict_field codec candidate field inside own held

include texts in
/-- The candidate's own values are the values it is created of exactly where these are plain. -/
theorem plain_semantic_iff (values : Members F) (candidate : Candidate)
    (distinct : (values.map Prod.fst).Nodup) (created : Created codec str values candidate) :
    normalizeMembers (semantic values candidate.siteFile candidate.siteStartLine
        candidate.evidence) =
      normalizeMembers (semantic (plainValues codec candidate) candidate.siteFile
        candidate.siteStartLine candidate.evidence) ↔ Plain codec values := by
  rw [normalize_eq_iff _ _ (semantic_distinct values _ _ _ distinct)
    (semantic_distinct _ _ _ _ (plain_distinct codec candidate))]
  simp only [semantic_present]
  constructor
  · intro same
    constructor
    · intro key inside
      by_contra outside
      rw [not_or] at outside
      have agrees := same key
      have other := outside.1
      simp only [List.mem_cons, List.not_mem_nil, or_false, not_or] at other
      rw [if_neg other.2.2, if_neg other.2.1, if_neg other.1, if_neg other.2.2, if_neg other.2.1,
        if_neg other.1] at agrees
      rcases plain_present codec str values candidate created key outside.1 with missing | found
      · rw [missing.2, Option.map_none, Option.map_eq_none_iff] at agrees
        exact (mem_keys_iff values key).mp inside agrees
      · obtain ⟨field, _, _, known, named, _⟩ := found
        exact outside.2 (named ▸ List.mem_map_of_mem known)
    · intro field inside kind
      have free := reserved_apart (codec.free field.1 (List.mem_map_of_mem inside))
      have agrees := same field.1
      rw [if_neg free.2.2.2.1, if_neg free.2.2.1, if_neg free.2.1, if_neg free.2.2.2.1,
        if_neg free.2.2.1, if_neg free.2.1] at agrees
      rcases plain_present codec str values candidate created field.1 (by
        simp [free.2.1, free.2.2.1, free.2.2.2.1]) with missing | found
      · exact absurd (List.mem_map_of_mem inside) missing.1
      · obtain ⟨other, own, value, known, named, there, read, held⟩ := found
        have equal := List.inj_on_of_nodup_map codec.distinct known inside named
        subst equal
        rw [kind] at read
        cases read with
        | text =>
          rw [there, held, Option.map_some, Option.map_some, Option.some.injEq] at agrees
          exact ⟨_, by rw [there, normalize_text value _ agrees]⟩
  · intro plain key
    by_cases evidence : key = "evidence"
    · rw [if_pos evidence, if_pos evidence]
    by_cases line : key = "site_start_line"
    · rw [if_neg evidence, if_pos line, if_neg evidence, if_pos line]
    by_cases file : key = "site_file"
    · rw [if_neg evidence, if_neg line, if_pos file, if_neg evidence, if_neg line, if_pos file]
    rw [if_neg evidence, if_neg line, if_neg file, if_neg evidence, if_neg line, if_neg file]
    have other : key ∉ ["site_file", "site_start_line", "evidence"] := by
      simp [evidence, line, file]
    rcases plain_present codec str values candidate created key other with missing | found
    · have absent : present values key = none := by
        by_contra there
        rcases plain.named key ((mem_keys_iff values key).mpr there) with reserved | known
        · exact other reserved
        · exact missing.1 known
      rw [missing.2, absent]
    · obtain ⟨field, own, value, inside, named, there, read, held⟩ := found
      rw [there, held]
      obtain ⟨name, kind⟩ := field
      cases read with
      | text =>
        obtain ⟨text, given⟩ := plain.texts _ inside rfl
        rw [show present values (name, FieldKind.text).1 = present values key by rw [named], there]
          at given
        cases given
        rw [texts]
        rfl
      | flag given => rfl

end

section

variable [FloatText F] [LawfulFloatText F] [DecidableEq F] (str : Json F → String)
  (texts : ∀ text, str (.str text) = text)

/-- The identifiers of two identities differ where their canonical texts do. -/
def IdentitiesApart (lead : String) (left right : Members F) : Prop :=
  identifierText lead left = identifierText lead right →
    canonicalJson (.obj left : Json F) = canonicalJson (.obj right)

include texts in
theorem create_read_iff (values : Members F) (candidate : Candidate)
    (distinct : DistinctKeys (.obj values)) (created : create codec str values = .ok candidate)
    (apart : IdentitiesApart codec.lead
      (semantic values candidate.siteFile candidate.siteStartLine candidate.evidence)
      (semantic (plainValues codec candidate) candidate.siteFile candidate.siteStartLine
        candidate.evidence)) :
    fromDict codec str (toDict codec candidate : Members F) = .ok candidate ↔ Plain codec values := by
  have made := (create_ok codec str values candidate).mp created
  have again := plain_created codec str texts values candidate made
  rw [read_back_iff codec str texts values candidate made,
    ← plain_semantic_iff codec str texts values candidate distinct.1 made, made.canonical,
    plainIdentifier]
  constructor
  · intro same
    exact Json.obj.inj (canonical_injective (F := F) _ _ made.printed again.printed
      (semantic_distinct_keys values _ _ _ distinct)
      (semantic_distinct_keys _ _ _ _ (plain_distinct_keys codec candidate)) (apart same))
  · intro same
    have texts_ : canonicalJson (.obj (semantic values candidate.siteFile candidate.siteStartLine
        candidate.evidence) : Json F) = canonicalJson (.obj (semantic (plainValues codec candidate)
          candidate.siteFile candidate.siteStartLine candidate.evidence) : Json F) := by
      rw [canonicalJson, canonicalJson, JsonValue.normalize, JsonValue.normalize, same]
    unfold identifierText sha256CanonicalJson
    rw [texts_]

end

section

structure SiteGiven (record : Members F) (site : Members F) (file : String) (line : Int) :
    Prop where
  sited : get record "site" = .obj site
  filed : get site "file" = .str file
  pathValid : sitePathValid file = true
  lined : get site "start_line" = .int line
  positive : 0 < line

/-- The evidence that a record gives, and what it is read as. -/
structure EvidenceGiven (record : Members F) (texts evidence : List String) : Prop where
  listed : present record "evidence" = some (.arr (texts.map .str))
  accepted : lifecycleEvidence texts = .ok evidence

/-- A record that has nothing else than its candidate has. -/
structure Exact (record site : Members F) (texts : List String) : Prop where
  named : ∀ key ∈ record.map Prod.fst,
    key ∈ [codec.idField, "site", "evidence"] ∨ key ∈ codec.fields.map Prod.fst
  placed : ∀ key ∈ site.map Prod.fst, key ∈ ["file", "start_line"]
  plain : ∀ field ∈ codec.fields, field.2 = .text → ∃ text, present record field.1 = some (.str text)
  ordered : texts.Pairwise (· < ·)

variable [FloatText F]

/-- What the identifier of a record's candidate is made of. -/
def recordIdentity (record site : Members F) (file : String) (line : Int) (evidence : List String) :
    Members F := semantic (recordValues codec record site) file line evidence

/-- The records that are read without any error but the analyzer's, and without any loss. -/
structure Regular (record : Members F) : Prop where
  sited : objectOf (get record "site") = none → codec.imported = true
  called : ∀ site, get record "site" = .obj site → "cls" ∉ record.map Prod.fst
  evidenced : ∀ site file line, SiteGiven record site file line →
    ∃ value, present record "evidence" = some value ∧
      ∀ items, value = .arr items → items.length ≤ 64 → Comparable items
  printed : ∀ site file line texts evidence, SiteGiven record site file line →
    EvidenceGiven record texts evidence →
      printable maxIntegerDigits (.obj (recordIdentity codec record site file line evidence) :
        Json F) = true ∧ ReadInOrder record codec.fields
  refused : ∀ site file line texts evidence, SiteGiven record site file line →
    EvidenceGiven record texts evidence → FieldsGiven record codec.fields →
      get record codec.idField ≠ .str (identifierText codec.lead
        (recordIdentity codec record site file line evidence)) → codec.imported = true
  exact : ∀ site file line texts evidence, SiteGiven record site file line →
    EvidenceGiven record texts evidence → FieldsGiven record codec.fields →
      get record codec.idField = .str (identifierText codec.lead
        (recordIdentity codec record site file line evidence)) → Exact codec record site texts

variable [DecidableEq F] (str : Json F → String)

/-- A record is read strictly: it is returned as it is, or refused by an error of the analyzer. -/
def Strict (record : Members F) : Prop := Orderly (fromDict codec str record) ∧
    ∀ candidate, fromDict codec str record = .ok candidate →
      JsonValue.normalize (.obj (toDict codec candidate) : Json F) =
        JsonValue.normalize (.obj record)

theorem orderly_failure {α : Type} (message : String) :
    Orderly (.error (codec.failure message) : Decoded α) ↔ codec.imported = true := by
  rw [orderly_error, Codec.failure]
  cases codec.imported with
  | true => simp [invalidCandidate, lifecycleInvalid]
  | false => simp

omit [FloatText F] [DecidableEq F] in
theorem read_in_order_values (record site : Members F) (fields : List (String × FieldKind))
    (known : ∀ field ∈ fields, field.1 ∈ codec.fields.map Prod.fst) :
    ReadInOrder (recordValues codec record site) fields ↔ ReadInOrder record fields := by
  induction fields with
  | nil => exact Iff.rfl
  | cons field fields ih =>
    obtain ⟨own, others⟩ := List.forall_mem_cons.mp known
    rw [ReadInOrder, ReadInOrder, ih others, values_field codec record site field.1 own]

omit [FloatText F] [DecidableEq F] in
theorem fields_given_values (record site : Members F) :
    FieldsGiven (recordValues codec record site) codec.fields ↔ FieldsGiven record codec.fields := by
  unfold FieldsGiven
  apply forall₂_congr
  intro field inside
  rw [values_field codec record site field.1 (List.mem_map_of_mem inside)]

omit [DecidableEq F] in
theorem orderly_create (record site : Members F) :
    Orderly (create codec str (recordValues codec record site)) ↔
      ∀ file line, readSite (get site "file") (get site "start_line") = .ok (file, line) →
        (∃ value, present record "evidence" = some value ∧ Orderly (readEvidence value)) ∧
          ∀ value evidence, present record "evidence" = some value →
            readEvidence value = .ok evidence →
              printable maxIntegerDigits (.obj (recordIdentity codec record site file line
                evidence) : Json F) = true ∧ ReadInOrder record codec.fields := by
  have fields := read_in_order_values codec record site codec.fields fun field inside =>
    List.mem_map_of_mem inside
  unfold create
  simp only [orderly_bind, orderly_member, member_ok, values_file, values_line, values_evidence,
    orderly_identifier, orderly_fields, fields, Option.some.injEq, forall_eq', identifier_ok]
  constructor
  · intro run file line site_
    obtain ⟨_, _, _, rest⟩ := run
    obtain ⟨there, next⟩ := rest (file, line) site_
    obtain ⟨value, found⟩ := Option.ne_none_iff_exists'.mp there
    refine ⟨⟨value, found, (next value found).1⟩, ?_⟩
    intro other evidence same read
    obtain ⟨printed, last⟩ := (next other same).2 evidence read
    exact ⟨printed, (last _ ⟨printed, rfl⟩).1⟩
  · intro known
    refine ⟨Option.some_ne_none _, Option.some_ne_none _, orderly_site _ _, ?_⟩
    intro place site_
    obtain ⟨⟨value, found, orderly⟩, next⟩ := known place.1 place.2 site_
    refine ⟨by rw [found]; exact Option.some_ne_none _, ?_⟩
    intro other same
    cases found.symm.trans same
    refine ⟨orderly, ?_⟩
    intro evidence read
    obtain ⟨printed, ordered⟩ := next value evidence found read
    exact ⟨printed, fun _ _ => ⟨ordered, fun _ _ => orderly_ok _⟩⟩

omit [FloatText F] [DecidableEq F] in
theorem site_same_iff (record site : Members F) (candidate : Candidate)
    (distinct : (site.map Prod.fst).Nodup)
    (given : SiteGiven record site candidate.siteFile candidate.siteStartLine) :
    normalizeMembers (siteRecord candidate : Members F) = normalizeMembers site ↔
      ∀ key ∈ site.map Prod.fst, key ∈ ["file", "start_line"] := by
  have file := present_of_get _ _ _ given.filed nofun
  have line := present_of_get _ _ _ given.lined nofun
  rw [normalize_eq_iff _ _ (by simp [siteRecord]) distinct]
  simp only [siteRecord, present_cons, present_nil]
  constructor
  · intro same key inside
    by_contra other
    simp only [List.mem_cons, List.not_mem_nil, or_false, not_or] at other
    have agrees := same key
    rw [if_neg (Ne.symm other.1), if_neg (Ne.symm other.2), Option.map_none, eq_comm,
      Option.map_eq_none_iff] at agrees
    exact (mem_keys_iff site key).mp inside agrees
  · intro placed key
    split
    · rename_i own
      rw [← own, file]
    · rename_i other
      split
      · rename_i own
        rw [← own, line]
      · rename_i last
        have absent : present site key = none := by
          by_contra there
          have named := placed key ((mem_keys_iff site key).mpr there)
          simp only [List.mem_cons, List.not_mem_nil, or_false] at named
          rcases named with one | one
          · exact other one.symm
          · exact last one.symm
        rw [absent]

variable (texts : ∀ text, str (.str text) = text)

omit [FloatText F] [DecidableEq F] in
theorem record_field (record site : Members F) (candidate : Candidate)
    (attributes : List.Forall₂ (fun field own => ∃ value,
      present (recordValues codec record site) field.1 = some value ∧ ReadAs str field.2 value own)
        codec.fields candidate.attributes) (key : String) :
    (key ∉ codec.fields.map Prod.fst ∧
      present ((codec.fields.map Prod.fst).zip (candidate.attributes.map Attribute.json) :
        Members F) key = none) ∨
    ∃ field own value, field ∈ codec.fields ∧ field.1 = key ∧ present record key = some value ∧
      ReadAs str field.2 value own ∧
        present ((codec.fields.map Prod.fst).zip (candidate.attributes.map Attribute.json) :
          Members F) key = some own.json := by
  rcases zip_present (F := F) codec.fields candidate.attributes _ attributes key with
    absent | ⟨field, own, inside, same, ⟨value, found, read⟩, held⟩
  · exact Or.inl absent
  · subst same
    rw [values_field codec record site field.1 (List.mem_map_of_mem inside)] at found
    exact Or.inr ⟨field, own, value, inside, rfl, found, read, held⟩

omit [FloatText F] [DecidableEq F] in
include texts in
/-- The candidate's record is the one it was read from exactly where this has nothing else. -/
theorem dict_exact_iff (record site : Members F) (candidate : Candidate) (listed : List String)
    (distinct : DistinctKeys (.obj record))
    (given : SiteGiven record site candidate.siteFile candidate.siteStartLine)
    (evidence : EvidenceGiven record listed candidate.evidence)
    (identifier : get record codec.idField = .str candidate.identifier)
    (attributes : List.Forall₂ (fun field own => ∃ value,
      present (recordValues codec record site) field.1 = some value ∧ ReadAs str field.2 value own)
        codec.fields candidate.attributes) :
    JsonValue.normalize (.obj (toDict codec candidate) : Json F) = JsonValue.normalize (.obj record) ↔
      Exact codec record site listed := by
  have reserved := reserved_apart codec.idFree.1
  have sited : present record "site" = some (.obj site) := present_of_get _ _ _ given.sited nofun
  have named : present record codec.idField = some (.str candidate.identifier) :=
    present_of_get _ _ _ identifier nofun
  have siteDistinct : DistinctKeys (.obj site) :=
    (distinctMembers_iff _).mp distinct.2 _ ((present_iff record distinct.1 _ _).mp sited)
  have siteSame : normalizeMembers (siteRecord candidate : Members F) = normalizeMembers site ↔
      ∀ key ∈ site.map Prod.fst, key ∈ ["file", "start_line"] :=
    site_same_iff record site candidate siteDistinct.1 given
  rw [JsonValue.normalize, JsonValue.normalize, Json.obj.injEq,
    normalize_eq_iff _ _ (dict_distinct codec candidate) distinct.1]
  simp only [dict_present]
  constructor
  · intro same
    constructor
    · intro key inside
      by_contra outside
      rw [not_or] at outside
      have other := outside.1
      simp only [List.mem_cons, List.not_mem_nil, or_false, not_or] at other
      have agrees := same key
      rw [if_neg (Ne.symm other.1), if_neg (Ne.symm other.2.1), if_neg (Ne.symm other.2.2)] at agrees
      rcases record_field codec str record site candidate attributes key with missing | found
      · rw [missing.2, Option.map_none, eq_comm, Option.map_eq_none_iff] at agrees
        exact (mem_keys_iff record key).mp inside agrees
      · obtain ⟨field, _, _, known, equal, _⟩ := found
        exact outside.2 (equal ▸ List.mem_map_of_mem known)
    · have agrees := same "site"
      rw [if_neg reserved.1, if_pos rfl, sited, Option.map_some, Option.map_some,
        Option.some.injEq, JsonValue.normalize, JsonValue.normalize, Json.obj.injEq] at agrees
      exact siteSame.mp agrees
    · intro field inside kind
      have free := reserved_apart (codec.free field.1 (List.mem_map_of_mem inside))
      have apart : codec.idField ≠ field.1 := fun equal =>
        codec.idFree.2 (equal ▸ List.mem_map_of_mem inside)
      have agrees := same field.1
      rw [if_neg apart, if_neg (Ne.symm free.1), if_neg (Ne.symm free.2.2.2.1)] at agrees
      rcases record_field codec str record site candidate attributes field.1 with missing | found
      · exact absurd (List.mem_map_of_mem inside) missing.1
      · obtain ⟨other, own, value, known, equal, there, read, held⟩ := found
        have alike := List.inj_on_of_nodup_map codec.distinct known inside equal
        subst alike
        rw [kind] at read
        cases read with
        | text =>
          rw [there, held, Option.map_some, Option.map_some, Option.some.injEq] at agrees
          exact ⟨_, by rw [there, normalize_text value _ agrees.symm]⟩
    · have agrees := same "evidence"
      rw [if_neg reserved.2.2.2.1, if_neg (by decide), if_pos rfl, evidence.listed, Option.map_some,
        Option.map_some, Option.some.injEq, normal_texts, normal_texts, Json.arr.injEq] at agrees
      have equal : candidate.evidence = listed :=
        List.map_injective_iff.mpr (fun _ _ => Json.str.inj) agrees
      rw [← equal, (evidence_again _ _ evidence.accepted).2]
      exact sortedSet_increasing _
  · intro exact_ key
    split
    · rename_i own
      rw [← own, named]
    · rename_i unnamed
      split
      · rename_i own
        rw [← own, sited, Option.map_some, Option.map_some, JsonValue.normalize,
          JsonValue.normalize, siteSame.mpr exact_.placed]
      · rename_i unsited
        split
        · rename_i own
          rw [← own, evidence.listed, (evidence_again _ _ evidence.accepted).2,
            sortedSet_of_increasing _ exact_.ordered]
        · rename_i unlisted
          rcases record_field codec str record site candidate attributes key with missing | found
          · have absent : present record key = none := by
              by_contra there
              rcases exact_.named key ((mem_keys_iff record key).mpr there) with own | known
              · simp only [List.mem_cons, List.not_mem_nil, or_false] at own
                rcases own with one | one | one
                · exact unnamed one.symm
                · exact unsited one.symm
                · exact unlisted one.symm
              · exact missing.1 known
            rw [missing.2, absent]
          · obtain ⟨field, own, value, inside, equal, there, read, held⟩ := found
            rw [there, held]
            obtain ⟨name, kind⟩ := field
            cases read with
            | text =>
              obtain ⟨text, own⟩ := exact_.plain _ inside rfl
              rw [show present record (name, FieldKind.text).1 = present record key by rw [equal],
                there] at own
              cases own
              rw [texts]
              rfl
            | flag held => rfl

/-- What a record gives where a candidate is created of it. -/
structure Given (record site : Members F) (candidate : Candidate) (listed : List String) : Prop where
  siteGiven : SiteGiven record site candidate.siteFile candidate.siteStartLine
  evidenceGiven : EvidenceGiven record listed candidate.evidence
  fieldsGiven : FieldsGiven record codec.fields
  canonical : candidate.identifier = identifierText codec.lead (recordIdentity codec record site
    candidate.siteFile candidate.siteStartLine candidate.evidence)
  attributes : List.Forall₂ (fun field own => ∃ value,
    present (recordValues codec record site) field.1 = some value ∧ ReadAs str field.2 value own)
      codec.fields candidate.attributes

omit [DecidableEq F] in
theorem created_given (record site : Members F) (sited : get record "site" = .obj site)
    (candidate : Candidate)
    (created : create codec str (recordValues codec record site) = .ok candidate) :
    ∃ listed, Given codec str record site candidate listed := by
  have made := (create_ok codec str _ _).mp created
  have file := made.file
  have line := made.line
  rw [values_file] at file
  rw [values_line] at line
  obtain ⟨listed, found, accepted⟩ := made.evidence
  rw [values_evidence] at found
  refine ⟨listed, ⟨sited, Option.some.inj file, made.pathValid, Option.some.inj line,
    made.positive⟩, ⟨found, accepted⟩, ?_, made.canonical, made.attributes⟩
  rw [← fields_given_values codec record site, ← fields_given_iff str]
  exact ⟨_, (read_fields_ok str _ _ _).mpr made.attributes⟩

omit [DecidableEq F] in
theorem given_created (record site : Members F) (file : String) (line : Int)
    (listed evidence : List String) (site_ : SiteGiven record site file line)
    (evidence_ : EvidenceGiven record listed evidence) (fields : FieldsGiven record codec.fields)
    (printed : printable maxIntegerDigits
      (.obj (recordIdentity codec record site file line evidence) : Json F) = true) :
    ∃ attributes, create codec str (recordValues codec record site) =
      .ok ⟨identifierText codec.lead (recordIdentity codec record site file line evidence), file,
        line, attributes, evidence⟩ := by
  rw [← fields_given_values codec record site, ← fields_given_iff str] at fields
  obtain ⟨attributes, read⟩ := fields
  refine ⟨attributes, (create_ok codec str _ _).mpr ?_⟩
  exact {
    file := by rw [values_file, site_.filed]
    pathValid := site_.pathValid
    line := by rw [values_line, site_.lined]
    positive := site_.positive
    evidence := ⟨listed, by rw [values_evidence, evidence_.listed], evidence_.accepted⟩
    printed
    canonical := rfl
    attributes := (read_fields_ok str _ _ _).mp read }

section

variable (record site : Members F) (sited : get record "site" = .obj site)
  (called : "cls" ∉ record.map Prod.fst)

include sited called

theorem from_dict_sited : fromDict codec str record =
      (create codec str (recordValues codec record site) >>= fun candidate =>
        if get record codec.idField = .str candidate.identifier then .ok candidate
        else .error (codec.failure (codec.noun ++ " candidate identifier is not canonical."))) := by
  rw [fromDict, sited]
  simp only [objectOf]
  rw [if_neg called]

theorem orderly_sited : Orderly (fromDict codec str record) ↔
      Orderly (create codec str (recordValues codec record site)) ∧
        ∀ candidate, create codec str (recordValues codec record site) = .ok candidate →
          get record codec.idField ≠ .str candidate.identifier → codec.imported = true := by
  rw [from_dict_sited codec str record site sited called, orderly_bind]
  apply and_congr_right
  intro _
  apply forall₂_congr
  intro candidate _
  split
  · rename_i same
    simp [same, orderly_ok]
  · rename_i other
    rw [orderly_failure]
    simp [other]

theorem read_sited (candidate : Candidate) : fromDict codec str record = .ok candidate ↔
      create codec str (recordValues codec record site) = .ok candidate ∧
        get record codec.idField = .str candidate.identifier := by
  rw [from_dict_sited codec str record site sited called, bind_ok]
  constructor
  · intro read
    obtain ⟨other, created, kept⟩ := read
    split at kept
    · rename_i same
      cases kept
      exact ⟨created, same⟩
    · cases kept
  · intro both
    exact ⟨candidate, both.1, if_pos both.2⟩

end

include texts in
theorem strict_regular (record : Members F) (distinct : DistinctKeys (.obj record))
    (strict : Strict codec str record) : Regular codec record := by
  obtain ⟨orderly, kept⟩ := strict
  have called : ∀ site, get record "site" = .obj site → "cls" ∉ record.map Prod.fst := by
    intro site sited inside
    rw [fromDict, sited] at orderly
    simp only [objectOf] at orderly
    rw [if_pos inside, orderly_error] at orderly
    obtain ⟨_, same⟩ := orderly
    cases same
  have parts (site : Members F) (sited : get record "site" = .obj site) :=
    (orderly_sited codec str record site sited (called site sited)).mp orderly
  have stages (site : Members F) (sited : get record "site" = .obj site) :=
    (orderly_create codec str record site).mp (parts site sited).1
  have site_ (site : Members F) (file : String) (line : Int)
      (given : SiteGiven record site file line) :
      readSite (get site "file") (get site "start_line") = .ok (file, line) :=
    (read_site_ok _ _ _ _).mpr ⟨given.filed, given.pathValid, given.lined, given.positive⟩
  have printed (site : Members F) (file : String) (line : Int) (listed evidence : List String)
      (given : SiteGiven record site file line) (found : EvidenceGiven record listed evidence) :=
    (stages site given.sited file line (site_ site file line given)).2 _ evidence found.listed
      ((read_evidence_ok _ _).mpr ⟨listed, rfl, found.accepted⟩)
  constructor
  · intro unsited
    rw [fromDict, unsited] at orderly
    exact (orderly_failure codec _).mp orderly
  · exact called
  · intro site file line given
    obtain ⟨value, found, ordered⟩ :=
      (stages site given.sited file line (site_ site file line given)).1
    exact ⟨value, found, (orderly_evidence value).mp ordered⟩
  · exact printed
  · intro site file line listed evidence given found fields other
    obtain ⟨attributes, created⟩ := given_created codec str record site file line listed evidence
      given found fields (printed site file line listed evidence given found).1
    exact (parts site given.sited).2 _ created other
  · intro site file line listed evidence given found fields same
    obtain ⟨attributes, created⟩ := given_created codec str record site file line listed evidence
      given found fields (printed site file line listed evidence given found).1
    have read := (read_sited codec str record site given.sited (called site given.sited) _).mpr
      ⟨created, same⟩
    obtain ⟨_, known⟩ := created_given codec str record site given.sited _ created
    exact (dict_exact_iff codec str texts record site _ listed distinct given found same
      known.attributes).mp (kept _ read)

include texts in
theorem regular_strict (record : Members F) (distinct : DistinctKeys (.obj record))
    (regular : Regular codec record) : Strict codec str record := by
  cases sited : objectOf (get record "site") with
  | none =>
    have imported := regular.sited sited
    constructor
    · rw [fromDict, sited]
      exact (orderly_failure codec _).mpr imported
    · intro candidate read
      rw [fromDict, sited] at read
      cases read
  | some site =>
    rw [object_of] at sited
    have called := regular.called site sited
    constructor
    · rw [orderly_sited codec str record site sited called, orderly_create]
      constructor
      · intro file line read
        obtain ⟨filed, valid, lined, positive⟩ := (read_site_ok _ _ _ _).mp read
        have given : SiteGiven record site file line := ⟨sited, filed, valid, lined, positive⟩
        obtain ⟨value, found, ordered⟩ := regular.evidenced site file line given
        refine ⟨⟨value, found, (orderly_evidence value).mpr ordered⟩, ?_⟩
        intro other evidence there accepted
        obtain ⟨listed, rfl, held⟩ := (read_evidence_ok _ _).mp accepted
        exact regular.printed site file line listed evidence given ⟨there, held⟩
      · intro candidate created other
        obtain ⟨listed, known⟩ := created_given codec str record site sited candidate created
        rw [known.canonical] at other
        exact regular.refused site _ _ listed _ known.siteGiven
          known.evidenceGiven known.fieldsGiven other
    · intro candidate read
      obtain ⟨created, same⟩ := (read_sited codec str record site sited called candidate).mp read
      obtain ⟨listed, known⟩ := created_given codec str record site sited candidate created
      apply (dict_exact_iff codec str texts record site candidate listed distinct
        known.siteGiven known.evidenceGiven same known.attributes).mpr
      apply regular.exact site _ _ listed _ known.siteGiven known.evidenceGiven known.fieldsGiven
      rw [same, known.canonical]

end

/-- A created candidate comes back exactly where its values were plain, and a record is read
strictly exactly where it is a regular one. -/
theorem candidate_codec_iff [FloatText F] [LawfulFloatText F] [DecidableEq F]
    (str : Json F → String) (texts : ∀ text, str (.str text) = text) :
    (∀ values candidate, DistinctKeys (.obj values) → create codec str values = .ok candidate →
      IdentitiesApart codec.lead
        (semantic values candidate.siteFile candidate.siteStartLine candidate.evidence)
        (semantic (plainValues codec candidate) candidate.siteFile candidate.siteStartLine
          candidate.evidence) →
      (fromDict codec str (toDict codec candidate) = .ok candidate ↔ Plain codec values)) ∧
    ∀ record, DistinctKeys (.obj record) → (Strict codec str record ↔ Regular codec record) :=
  ⟨fun values candidate distinct created apart =>
      create_read_iff codec str texts values candidate distinct created apart,
    fun record distinct => ⟨strict_regular codec str texts record distinct,
      regular_strict codec str texts record distinct⟩⟩

def sampleText : PlainJson → String
  | .str text => text
  | _ => "None"

def guardValues : Members Empty :=
  [("site_file", .str "src/Cache.java"), ("site_start_line", .int 7), ("kind", .str "size_check"),
    ("resource_dimension", .str "entries"), ("scope", .str "instance"), ("behavior", .str "reject"),
    ("dominates_growth", .bool true), ("reject_path_reaches_growth", .bool false),
    ("configuration_key", .str "literal"), ("configuration_value", .str "16"),
    ("representation", .str "same"), ("phase", .str "before_growth"),
    ("covers_materialization", .bool false), ("authorization_only", .bool false),
    ("coverage_status", .str "complete"), ("evidence", .arr [.str "guard_call"])]

def guardCandidate : Candidate where
  identifier := identifierText "guard" (semantic guardValues "src/Cache.java" 7 ["guard_call"])
  siteFile := "src/Cache.java"
  siteStartLine := 7
  attributes := [.text "size_check", .text "entries", .text "instance", .text "reject", .flag true,
    .flag false, .text "literal", .text "16", .text "same", .text "before_growth", .flag false,
    .flag false, .text "complete"]
  evidence := ["guard_call"]

theorem guard_created : Created guardCodec sampleText guardValues guardCandidate where
  file := by decide
  pathValid := by decide
  line := by decide
  positive := by decide
  evidence := ⟨["guard_call"], by decide, by decide⟩
  printed := by decide
  canonical := rfl
  attributes := (read_fields_ok sampleText guardValues _ _).mp (by decide)

theorem guard_plain : Plain guardCodec guardValues := by
  constructor
  · decide
  · intro field inside kind
    have each : ∀ field ∈ guardCodec.fields, field.2 = .text →
        ((present guardValues field.1).bind plainText).isSome = true := by decide
    obtain ⟨text, found⟩ := Option.isSome_iff_exists.mp (each field inside kind)
    obtain ⟨value, there, own⟩ := Option.bind_eq_some_iff.mp found
    cases value with
    | str given => exact ⟨given, there⟩
    | _ => cases own

theorem guard_apart : IdentitiesApart guardCodec.lead
    (semantic guardValues guardCandidate.siteFile guardCandidate.siteStartLine
      guardCandidate.evidence)
    (semantic (plainValues guardCodec guardCandidate) guardCandidate.siteFile
      guardCandidate.siteStartLine guardCandidate.evidence) := by
  intro _
  have same := (plain_semantic_iff guardCodec sampleText (fun _ => rfl) guardValues guardCandidate
    (by decide) guard_created).mpr guard_plain
  rw [canonicalJson, canonicalJson, JsonValue.normalize, JsonValue.normalize, same]

/-- The values of the sample guard are plain: its record is read back, and it is a regular one. -/
theorem guard_read :
    fromDict guardCodec sampleText (toDict guardCodec guardCandidate) = .ok guardCandidate ∧
    Regular guardCodec (toDict (F := Empty) guardCodec guardCandidate) := by
  have distinct : DistinctKeys (.obj guardValues) := by
    refine ⟨by decide, (distinctMembers_iff _).mpr ?_⟩
    simp [guardValues, DistinctKeys, DistinctItems]
  have written : DistinctKeys (.obj (toDict (F := Empty) guardCodec guardCandidate)) := by
    refine ⟨by decide, (distinctMembers_iff _).mpr ?_⟩
    simp [toDict, guardCandidate, guardCodec, Attribute.json, DistinctKeys, DistinctItems,
      DistinctMembers]
  have laws := candidate_codec_iff (F := Empty) guardCodec sampleText fun _ => rfl
  have read := (laws.1 guardValues guardCandidate distinct
    ((create_ok guardCodec sampleText _ _).mpr guard_created) guard_apart).mpr guard_plain
  refine ⟨read, (laws.2 _ written).mp ⟨?_, ?_⟩⟩
  · intro raised failed
    rw [read] at failed
    cases failed
  · intro candidate given
    rw [Except.ok.inj (given.symm.trans read)]

/-- The decoder of release candidates has no error to refuse an empty record with. -/
theorem release_unread : ¬ ∀ codec ∈ [guardCodec, boundCodec, releaseCodec],
    ∀ record : Members Empty, Strict codec sampleText record := by
  intro claimed
  obtain ⟨_, same⟩ := (claimed releaseCodec (by simp) []).1 (.nameError "AnalyzerError") rfl
  cases same

end DosWeb.Production
