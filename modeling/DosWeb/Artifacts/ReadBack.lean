import DosWeb.Artifacts.Jsonl

namespace DosWeb.Artifacts

open Library Library.JsonValue Library.JsonText Library.JsonRoundTrip Library.JsonSize Identifiers

section

variable {F : Type}

theorem node_fits_normalize (value : Json F) :
    nodeFits (JsonValue.normalize value) = nodeFits value := by
  cases value with
  | arr items => simp [JsonValue.normalize, nodeFits, normalizeItems_eq_map]
  | obj members =>
    simp [JsonValue.normalize, nodeFits, (normalizeMembers_perm members).length_eq]
  | _ => rfl

theorem nodes_fit_normalize (value : Json F) :
    NodesFit 0 (JsonValue.normalize value) ↔ NodesFit 0 value := by
  unfold NodesFit
  constructor
  · intro all node member
    have own := all (JsonValue.normalize node.1, node.2)
      ((spread_normalize 0 value).mem_iff.mpr (List.mem_map_of_mem member))
    exact ⟨own.1, by rw [← node_fits_normalize]; exact own.2⟩
  · intro all node member
    rcases List.mem_map.mp ((spread_normalize 0 value).mem_iff.mp member) with
      ⟨original, present, rfl⟩
    have own := all original present
    exact ⟨own.1, by rw [node_fits_normalize]; exact own.2⟩

theorem nests_within_normalize (recursionLimit : Nat) (value : Json F) :
    nestsWithin recursionLimit (JsonValue.normalize value) = nestsWithin recursionLimit value := by
  rw [Bool.eq_iff_iff]
  simp only [nestsWithin, List.all_eq_true, (spread_normalize 0 value).mem_iff]
  constructor
  · intro all node member
    exact all (JsonValue.normalize node.1, node.2) (List.mem_map_of_mem member)
  · intro all node member
    rcases List.mem_map.mp member with ⟨original, present, rfl⟩
    exact all original present

theorem object_normalize (value : Json F) :
    isObject (JsonValue.normalize value) = isObject value := by
  cases value <;> rfl

variable [FloatText F]

/-- A record that the reader takes back: its line has room for the line feed, and its
structure stays within the reader's bounds. -/
structure Readable (record : Json F) : Prop where
  lineBytes : (canonicalJson record).length < maxRecordBytes
  depth : ∀ node ∈ spread 0 record, node.2 ≤ maxDepth
  nodes : (spread 0 record).length ≤ maxNodes
  collections : ∀ node ∈ spread 0 record, (children node.1).length ≤ maxCollection

structure Writable (recursionLimit : Nat) (record : Json F) : Prop where
  mapping : isObject record = true
  encodable : encodable recursionLimit record = true
  lineBytes : (canonicalJson record).length ≤ maxRecordBytes

variable (recursionLimit number : Nat)

theorem encode_records_ok (records : List (Record F)) (lines : List (List UInt8)) :
    encodeRecords recursionLimit number records = .ok lines ↔
      (∀ record ∈ records, Writable recursionLimit record.1) ∧
        lines = records.map fun record => canonicalJson record.1 ++ [10] := by
  induction records generalizing number lines with
  | nil => simp [encodeRecords, eq_comm]
  | cons record records ih =>
    simp only [encodeRecords, encodeRecord, bind_ok, require_ok, decide_eq_true_eq, ih, pure_ok, List.forall_mem_cons, List.map_cons]
    constructor
    · rintro ⟨_, ⟨_, mapping, _, encoded, _, short, rfl⟩, _, ⟨rest, rfl⟩, rfl⟩
      exact ⟨⟨⟨mapping, encoded, short⟩, rest⟩, rfl⟩
    · rintro ⟨⟨own, rest⟩, rfl⟩
      exact ⟨_, ⟨(), own.mapping, (), own.encodable, (), own.lineBytes, rfl⟩, _, ⟨rest, rfl⟩, rfl⟩

theorem encode_payload_records (recursionLimit : Nat) (records : List (Record F))
    (data : List UInt8) (count : Nat)
    (accepted : encodePayload recursionLimit (.records records) = .ok (data, count)) :
    (∀ record ∈ records, Writable recursionLimit record.1) ∧
      data = (records.map fun record => canonicalJson record.1).flatMap (· ++ [10]) ∧
      data.length ≤ maxTotalBytes ∧ records.length ≤ maxRecords := by
  simp only [encodePayload, payloadData, bind_ok, require_ok, decide_eq_true_eq,
    encode_records_ok, pure_ok, Bool.and_eq_true] at accepted
  obtain ⟨_, ⟨_, few, _, ⟨writable, rfl⟩, rfl⟩, _, ⟨total, _⟩, same⟩ := accepted
  obtain ⟨rfl, rfl⟩ := Prod.mk.inj same
  refine ⟨writable, ?_, total, few⟩
  simp [List.flatMap_def, Function.comp_def]

theorem readable_iff (record : Json F) (lineBytes : (canonicalJson record).length < maxRecordBytes) :
    Readable record ↔ checkArtifactValue (JsonValue.normalize record) = true := by
  rw [check_artifact_value_iff, nodes_fit_normalize, (spread_normalize 0 record).length_eq,
    List.length_map]
  constructor
  · intro readable
    refine ⟨readable.nodes, fun node member => ⟨readable.depth node member, ?_⟩⟩
    have size := readable.collections node member
    rcases node with ⟨value, level⟩
    cases value with
    | str text =>
      have normal : (Json.str text, level) ∈ spread 0 (JsonValue.normalize record) :=
        (spread_normalize 0 record).mem_iff.mpr (List.mem_map.mpr ⟨_, member, rfl⟩)
      have bytes := spread_text_bytes 0 level (JsonValue.normalize record) text normal
      simp only [canonicalJson, maxRecordBytes] at lineBytes
      have short : (Text.utf8 text.toList).length ≤ maxStringBytes := by
        simp only [maxStringBytes]
        omega
      simpa [nodeFits] using short
    | arr _ | obj _ => simpa [nodeFits, children] using size
    | _ => rfl
  · rintro ⟨nodes, fit⟩
    refine ⟨lineBytes, fun node member => (fit node member).1, nodes, fun node member => ?_⟩
    have own := (fit node member).2
    rcases node with ⟨value, level⟩
    cases value with
    | arr _ | obj _ => simpa [nodeFits, children] using own
    | _ => simp [children]

variable [LawfulFloatText F]

theorem canonical_one_line (value : Json F) (printed : printable maxIntegerDigits value = true) :
    Bytes.OneLine (canonicalJson value) := by
  rw [← printable_normalize] at printed
  have inline := render_inline maxIntegerDigits (JsonValue.normalize value) printed
  constructor
  · intro member
    rcases Bytes.utf8_small _ 10 member (by decide) with ⟨c, present, same⟩
    exact (inline c present).1 (Char.ext (UInt32.toNat_inj.mp same))
  · intro member
    rcases Bytes.utf8_small _ 13 member (by decide) with ⟨c, present, same⟩
    exact (inline c present).2 (Char.ext (UInt32.toNat_inj.mp same))

theorem parse_line_canonical (recursionLimit : Nat) (record : Record F)
    (encoded : encodable recursionLimit record.1 = true) :
    parseLine recursionLimit (render (JsonValue.normalize record.1) ++ ['\n']) =
      if checkArtifactValue (JsonValue.normalize record.1) then
        some (JsonValue.normalize record.1) else none := by
  simp only [encodable, Bool.and_eq_true] at encoded
  have read := loads_render maxIntegerDigits (JsonValue.normalize record.1) ['\n']
    (by rw [printable_normalize]; exact encoded.1) (distinctKeys_normalize _ record.2) (by decide)
    (boundary_cons '\n' [] (by decide))
  have nests := nests_within_normalize recursionLimit record.1
  simp [parseLine, read, Option.filter, nests, encoded.2]

theorem read_line_ok (artifactName sourceName : String)
    (record : Record F) (writable : Writable recursionLimit record.1) (value : Json F) :
    readLine recursionLimit artifactName sourceName number (canonicalJson record.1 ++ [10]) =
        .ok value ↔ Readable record.1 ∧ value = JsonValue.normalize record.1 := by
  have decoded : Bytes.decodeUtf8 (canonicalJson record.1 ++ [10]) =
      some (render (JsonValue.normalize record.1) ++ ['\n']) := by
    have encoded : canonicalJson record.1 ++ [10] =
        Text.utf8 (render (JsonValue.normalize record.1) ++ ['\n']) := by
      rw [Bytes.utf8_append]
      rfl
    rw [encoded, Bytes.decodeUtf8_utf8]
  have filled : (render (JsonValue.normalize record.1) ++ ['\n']).all isSpace = false := by
    rcases record with ⟨value, _⟩
    have mapping := writable.mapping
    cases value with
    | obj members => simp [JsonValue.normalize, render, isSpace]
    | _ => simp [isObject] at mapping
  have object : isObject (JsonValue.normalize record.1) = true := by
    rw [object_normalize]
    exact writable.mapping
  have length : (canonicalJson record.1 ++ [10]).length ≤ maxRecordBytes ↔
      (canonicalJson record.1).length < maxRecordBytes := by
    rw [List.length_append]
    exact Nat.add_one_le_iff
  simp only [readLine, bind_ok, require_ok, decide_eq_true_eq, length, decoded, filled,
    Bool.not_false, parse_line_canonical recursionLimit record writable.encodable]
  constructor
  · rintro ⟨_, short, _, _, read⟩
    split at read
    · cases read
    · rename_i found taken
      split at taken
      · rename_i checked
        cases taken
        simp only [bind_ok, require_ok, object, pure_ok] at read
        obtain ⟨_, _, rfl⟩ := read
        exact ⟨(readable_iff record.1 short).mpr checked, rfl⟩
      · cases taken
  · rintro ⟨readable, rfl⟩
    refine ⟨(), readable.lineBytes, (), trivial, ?_⟩
    simp [(readable_iff record.1 readable.lineBytes).mp readable, bind_ok, object, pure,
      Except.pure]

theorem read_lines_ok (artifactName sourceName : String)
    (records : List (Record F)) (writable : ∀ record ∈ records, Writable recursionLimit record.1)
    (values : List (Json F)) : readLines recursionLimit artifactName sourceName number
        (records.map fun record => canonicalJson record.1 ++ [10]) = .ok values ↔
      (∀ record ∈ records, Readable record.1) ∧
        values = records.map fun record => JsonValue.normalize record.1 := by
  induction records generalizing number values with
  | nil => simp [readLines, eq_comm]
  | cons record records ih =>
    rw [List.forall_mem_cons] at writable
    simp only [List.map_cons, readLines, bind_ok, read_line_ok _ _ _ _ record writable.1,
      ih _ writable.2, pure_ok, List.forall_mem_cons]
    constructor
    · rintro ⟨_, ⟨own, rfl⟩, _, ⟨rest, rfl⟩, rfl⟩
      exact ⟨⟨own, rest⟩, rfl⟩
    · rintro ⟨⟨own, rest⟩, rfl⟩
      exact ⟨_, ⟨own, rfl⟩, _, ⟨rest, rfl⟩, rfl⟩

theorem read_jsonl_ok (recursionLimit : Nat) (artifactName sourceName : String)
    (records : List (Record F)) (data : List UInt8) (count : Nat)
    (accepted : encodePayload recursionLimit (.records records) = .ok (data, count))
    (values : List (Json F)) :
    readJsonlBytesStrict recursionLimit data artifactName sourceName = .ok values ↔
      (∀ record ∈ records, Readable record.1) ∧
        values = records.map fun record => JsonValue.normalize record.1 := by
  obtain ⟨writable, written, total, few⟩ := encode_payload_records _ _ _ _ accepted
  have lines : Bytes.splitLines data =
      records.map fun record => canonicalJson record.1 ++ [10] := by
    rw [written, Bytes.splitLines_lines, List.map_map]
    · rfl
    · intro line member
      rcases List.mem_map.mp member with ⟨record, present, rfl⟩
      have encodable := (writable record present).encodable
      simp only [Artifacts.encodable, Bool.and_eq_true] at encodable
      exact canonical_one_line record.1 encodable.1
  simp only [readJsonlBytesStrict, bind_ok, require_ok, decide_eq_true_eq, lines, List.length_map,
    read_lines_ok recursionLimit 1 artifactName sourceName records writable]
  constructor
  · intro decoded
    obtain ⟨_, _, _, _, read⟩ := decoded
    exact read
  · intro read
    exact ⟨(), total, (), few, read⟩

/-- The same records in the same order; dictionaries compare without the order of members. -/
def SameRecords (values : List (Json F)) (records : List (Record F)) : Prop :=
  values.map JsonValue.normalize = records.map fun record => JsonValue.normalize record.1

/-- Written records read back as the same records exactly where each of them is readable. -/
theorem payload_read_back_iff (recursionLimit : Nat) (artifactName sourceName : String)
    (records : List (Record F)) (data : List UInt8) (count : Nat)
    (accepted : encodePayload recursionLimit (.records records) = .ok (data, count)) :
    (∃ values, readJsonlBytesStrict recursionLimit data artifactName sourceName = .ok values ∧
        SameRecords values records) ↔ ∀ record ∈ records, Readable record.1 := by
  simp only [read_jsonl_ok recursionLimit artifactName sourceName records data count accepted]
  constructor
  · rintro ⟨_, ⟨readable, _⟩, _⟩
    exact readable
  · intro readable
    refine ⟨_, ⟨readable, rfl⟩, ?_⟩
    unfold SameRecords
    rw [List.map_map]
    exact List.map_congr_left (fun record _ => normalize_idempotent record.1 record.2)

end

/-- An array within the given number of further arrays. -/
def nested : Nat → PlainJson
  | 0 => .arr []
  | levels + 1 => .arr [nested levels]

theorem nested_distinct (levels : Nat) : DistinctKeys (nested levels) := by
  induction levels with
  | zero => simp [nested, DistinctKeys, DistinctItems]
  | succ levels ih => simpa [nested, DistinctKeys, DistinctItems] using ih

def nestedRecord (levels : Nat) : Record Empty :=
  ⟨.obj [("a", nested levels)], by simp [DistinctKeys, DistinctMembers, nested_distinct]⟩

def nestedData (levels : Nat) : List UInt8 := canonicalJson (nestedRecord levels).1 ++ [10]

theorem shallow_accepted :
    encodePayload 1000 (.records [nestedRecord 3]) = .ok (nestedData 3, 1) := by
  decide

theorem deep_accepted :
    encodePayload 1000 (.records [nestedRecord 32]) = .ok (nestedData 32, 1) := by
  decide

theorem payload_read_back_iff_shallow :
    (∃ values, readJsonlBytesStrict 1000 (nestedData 3) "verified_growth" "verified-upstream" =
      .ok values ∧ SameRecords values [nestedRecord 3]) ↔
      ∀ record ∈ [nestedRecord 3], Readable record.1 :=
  payload_read_back_iff 1000 _ _ _ _ _ shallow_accepted

/-- A record nested one level deeper than the reader allows is written and not read. -/
theorem deep_record_refused :
    ¬ ∃ values, readJsonlBytesStrict 1000 (nestedData 32) "verified_growth" "verified-upstream" =
      .ok values ∧ SameRecords values [nestedRecord 32] := by
  rintro ⟨values, read, _⟩
  have readable := ((read_jsonl_ok 1000 _ _ _ _ _ deep_accepted values).mp read).1 _
    (.head _)
  have tooDeep : ¬ ∀ node ∈ spread 0 (nestedRecord 32).1, node.2 ≤ maxDepth := by decide
  exact tooDeep readable.depth

end DosWeb.Artifacts
