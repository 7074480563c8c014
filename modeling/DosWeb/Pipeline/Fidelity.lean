import DosWeb.Library.Grouping
import DosWeb.Pipeline.Forward

namespace DosWeb.Pipeline

open Artifacts Identifiers Library Library.JsonValue Library.JsonText Library.OrderedSet
open Library.Steps

/-- What the replacement of a stage's artifacts leaves where it succeeds. -/
structure Replaced (first : FileTree) (written : List Written) (stale : List Path) (stage : Stage)
    (tree : FileTree) : Prop where
  published : ∀ record ∈ written, ∃ data, tree.fileAt record.destination = some data ∧
    Content first written stale record data
  spared : ∀ record ∈ written, record.staged ≠ stagedManifest
  manifest : tree.fileAt (manifestPath stage) = first.fileAt stagedManifest
  kept : ∀ path, ¬ manifestPath stage <+: outputPath path →
    (∀ parts ∈ stale ++ written.map (·.relative.parts), ¬ parts <+: path) →
      tree.fileAt (outputPath path) = first.fileAt (outputPath path)

theorem forward_start (s : Progress) (written : List Written) (stale : List Path)
    (prepared : Prepared s.tree written) (fresh : s.backups = []) :
    Forward s.tree written stale [] [] written s where
  kept _ _ _ := rfl
  vacated path inside := by
    rcases inside with ⟨backup, member, _⟩
    simp [fresh] at member
  recorded backup member := by simp [fresh] at member
  covered parts member := by cases member
  staged := prepared.staged
  untouched _ _ _ := rfl
  taken record _ parts member := by simp [fresh] at member
  placed record _ backup member := by simp [fresh] at member
  published record member := by cases member
  manifest _ := rfl
  spent taken := by
    rcases taken with ⟨record, member, _⟩
    cases member

theorem manifest_elsewhere (stage : Stage) (relative : Relative) :
    ¬ manifestPath stage <+: outputPath relative.parts := by
  rintro ⟨below, shape⟩
  simp only [manifestPath, outputPath, List.cons_append, List.cons.injEq, true_and] at shape
  exact relative.notManifests (by simp [← shape])

theorem replace_artifacts_leaves (s : Progress) (written : List Written) (stale : List String)
    (stage : Stage) (prepared : Prepared s.tree written) (fresh : s.backups = [])
    (file : (s.tree.fileAt stagedManifest).isSome = true) :
    Leaves (replaceArtifacts stage stale written) s
      (fun _ after => Replaced s.tree written (stale.map pathParts) stage after.tree)
      (fun _ _ => True) := by
  unfold replaceArtifacts
  refine leaves_bind _ (set_aside_stale_forward s.tree written (stale.map pathParts)
    written s stale (forward_start s written _ prepared fresh)) ?_
  intro _ cleared first
  refine leaves_bind _
    (publish_artifacts_forward s.tree written _ cleared prepared first) ?_
  intro _ published last
  refine leaves_mono (swap_manifest_files stage published) ?_ (fun _ _ _ => trivial)
  rintro _ after ⟨present, manifest, others⟩
  have spared : ∀ record ∈ written, record.staged ≠ stagedManifest := by
    intro record member same
    exact present (last.spent ⟨record, member, same⟩)
  have staged := last.manifest spared
  refine ⟨?_, spared, ?_, ?_⟩
  · intro record member
    rcases last.published record member with ⟨data, stands, content⟩
    refine ⟨data, ?_, content⟩
    rw [← stands]
    exact others _ (manifest_elsewhere stage record.relative)
  · rw [← staged]
    exact manifest (staged ▸ file)
  · intro path outside untouched
    rw [others path outside]
    apply last.kept
    · rintro ⟨backup, member, lead⟩
      rcases last.recorded backup member with ⟨parts, inside, rfl⟩
      exact untouched parts inside (by simpa [outputPath] using lead)
    · intro member
      rcases List.mem_map.mp member with ⟨record, inside, same⟩
      refine untouched record.relative.parts (List.mem_append_right _
        (List.mem_map_of_mem inside)) ?_
      rw [Written.destination, outputPath, outputPath, List.cons.injEq] at same
      exact same.2 ▸ List.prefix_refl _

section

variable {F : Type}

theorem sorted_artifacts (normalized : List (Relative × Payload F))
    (distinct : (normalized.map fun artifact => artifact.1.text).Nodup) :
    (sortArtifacts normalized).Pairwise fun left right => left.1.text < right.1.text := by
  have permutation := List.perm_insertionSort
    (fun left right : Relative × Payload F => left.1.text ≤ right.1.text) normalized
  have ordered := Grouping.sorted_by_key (fun artifact => artifact.1.text) normalized
  have unique : (sortArtifacts normalized).Pairwise
      fun left right => left.1.text ≠ right.1.text := by
    rw [← List.pairwise_map (R := (· ≠ ·))]
    exact (permutation.map _).nodup_iff.mpr distinct
  exact (ordered.and unique).imp fun both => lt_of_le_of_ne both.1 both.2

theorem setMember_field (key : String) (value : Json F) (members : Members F) :
    field key (.obj (setMember key value members)) = some value := by
  induction members with
  | nil => simp [setMember, field]
  | cons member members ih =>
    unfold setMember
    split
    · simp [field]
    · rename_i other
      simp only [field] at ih ⊢
      rw [List.find?_cons_of_neg (by simpa using other)]
      exact ih

variable [FloatText F]

/-- A publication that returned, by what it staged and where it put it. -/
structure Returned (settings : Settings F) (stage : Stage) (fingerprint : Json F)
    (output : StageOutput F) (times : StageTimes F) (old : Json F) (before : FileTree)
    (manifest : Json F) (tree : FileTree) (normalized : List (Relative × Payload F))
    (written : List Written) (first : FileTree) : Prop where
  accepted : Normalized before output.artifacts normalized
  same : SameOutput before first
  staged : Staged settings first (sortArtifacts normalized) written
  prepared : Prepared first written
  listed : manifest = manifestJson settings stage fingerprint written output.metadata times
  encodable : encodable settings.recursionLimit manifest = true
  bytes : first.fileAt stagedManifest = some (canonicalJson manifest ++ [10])
  replaced : Replaced first written ((stalePaths old written).map pathParts) stage tree

variable (settings : Settings F)

section

variable (tree : FileTree) (artifacts : List (Relative × Payload F)) (written : List Written)
  (staged : Staged settings tree artifacts written)

include staged

theorem staged_relatives : written.map (·.relative) = artifacts.map Prod.fst := by
  induction staged with
  | nil => rfl
  | cons own _ ih => simp [own.1, ih]

theorem staged_prepared (sorted : artifacts.Pairwise fun left right => left.1.text < right.1.text) :
    Prepared tree written where
  staged record member := by
    induction staged with
    | nil => cases member
    | cons own _ ih =>
      rcases List.mem_cons.mp member with rfl | later
      · rcases own with ⟨_, data, _, stands⟩
        simp [stands]
      · exact ih (List.pairwise_cons.mp sorted).2 later
  sorted := by
    have relatives := staged_relatives settings tree artifacts written staged
    have pairs : (artifacts.map Prod.fst).Pairwise fun left right => left.text < right.text :=
      List.pairwise_map.mpr sorted
    rw [← relatives, List.pairwise_map] at pairs
    exact pairs

theorem staged_record (artifact : Relative × Payload F) (member : artifact ∈ artifacts) :
    ∃ record ∈ written, record.relative = artifact.1 ∧
      ∃ data, Recorded settings artifact.2 record data ∧ tree.fileAt record.staged = some data := by
  induction staged with
  | nil => cases member
  | cons own _ ih =>
    rcases List.mem_cons.mp member with rfl | later
    · exact ⟨_, .head _, own⟩
    · rcases ih later with ⟨record, inside, facts⟩
      exact ⟨record, .tail _ inside, facts⟩

theorem staged_artifact (record : Written) (member : record ∈ written) :
    ∃ artifact ∈ artifacts, record.relative = artifact.1 ∧
      ∃ data, Recorded settings artifact.2 record data ∧ tree.fileAt record.staged = some data := by
  induction staged with
  | nil => cases member
  | cons own _ ih =>
    rcases List.mem_cons.mp member with rfl | later
    · exact ⟨_, .head _, own⟩
    · rcases ih later with ⟨artifact, inside, facts⟩
      exact ⟨artifact, .tail _ inside, facts⟩

end

theorem publish_staged_leaves (s : Progress) (settings : Settings F) (stage : Stage)
    (fingerprint : Json F) (output : StageOutput F) (times : StageTimes F) (old : Json F)
    (before : FileTree) (normalized : List (Relative × Payload F))
    (accepted : Normalized before output.artifacts normalized)
    (same : SameOutput before s.tree) (fresh : s.backups = [])
    (distinct : (normalized.map fun artifact => artifact.1.text).Nodup) :
    Leaves (publishStaged settings stage fingerprint normalized output.metadata times old) s
      (fun manifest after => ∃ written first,
        Returned settings stage fingerprint output times old before manifest after.tree normalized
          written first)
      (fun _ _ => True) := by
  have sorted := sorted_artifacts normalized distinct
  have unique : ((sortArtifacts normalized).map Prod.fst).Nodup := by
    rw [List.nodup_iff_pairwise_ne, List.pairwise_map]
    refine sorted.imp ?_
    intro left right below equal
    rw [equal] at below
    exact lt_irrefl _ below
  unfold publishStaged
  refine leaves_then (stage_artifacts_leaves s settings _ unique) (fun _ _ _ => trivial) ?_
  rintro written _ ⟨stagedTree, left, output', _, rfl, staged, _⟩
  refine leaves_then (check_leaves _ _) (fun _ _ _ => trivial) ?_
  rintro _ _ ⟨encodes, rfl⟩
  rw [require_ok] at encodes
  refine leaves_then (perform_leaves _ _ _ (by simp)) (fun _ _ _ => trivial) ?_
  rintro _ _ ⟨first, fault, wrote, _, rfl⟩
  have changed := (stagedTree.write_some _ _ first wrote).2
  have bytes : first.fileAt stagedManifest = some (canonicalJson
      (manifestJson settings stage fingerprint written output.metadata times) ++ [10]) := by
    simp [FileTree.fileAt, changed]
  have elsewhere : ∀ path, path ≠ stagedManifest →
      first.fileAt path = stagedTree.fileAt path := by
    intro path other
    exact stagedTree.fileAt_congr first path ((changed path).trans (if_neg other))
  have held : Prepared first written := by
    have before := staged_prepared settings stagedTree _ written staged sorted
    refine ⟨fun record member => ?_, before.sorted⟩
    by_cases manifest : record.staged = stagedManifest
    · simp [manifest, bytes]
    · rw [elsewhere _ manifest]
      exact before.staged record member
  refine leaves_bind (fun _ after => Replaced first written
    ((stalePaths old written).map pathParts) stage after.tree) ?_ ?_
  · refine handled_leaves _ _ _ _ (fun _ _ => True) (fun _ => True)
      (replace_artifacts_leaves (((s.with stagedTree left).with first fault)) written
        (stalePaths old written) stage held fresh (by simp [Progress.with, bytes])) ?_
    intro _ broken _
    unfold Leaves
    split <;> trivial
  · rintro _ after replaced
    refine leaves_pure _ _ _ _ ⟨written, first, accepted, ?_, ?_, held, rfl, encodes, bytes,
      replaced⟩
    · intro path
      rw [changed, if_neg (by simp [stagedManifest, temporaryPath, outputPath])]
      exact (output' path).trans (same path)
    · exact staged_frame settings stagedTree first _ written staged fun record member =>
        elsewhere _ (replaced.spared record member)

theorem publish_tree_leaves (before : FileTree) (fault : Option Fault) (settings : Settings F)
    (stage : Stage) (fingerprint : Json F) (output : StageOutput F) (times : StageTimes F)
    (old : Json F) : Leaves (publishTree settings stage fingerprint output times old)
      { tree := before, fault := fault }
      (fun manifest after => ∃ normalized written first,
        Returned settings stage fingerprint output times old before manifest after.tree normalized
          written first)
      (fun _ _ => True) := by
  unfold publishTree
  refine leaves_then (check_leaves _ _) (fun _ _ _ => trivial) ?_
  rintro _ _ ⟨_, rfl⟩
  refine leaves_then (normalize_leaves _ settings.shown output.artifacts [] (by simp))
    (fun _ _ _ => trivial) ?_
  rintro normalized _ ⟨⟨left, _, rfl⟩, distinct, more, shape, accepted⟩
  rw [List.nil_append] at shape
  subst shape
  refine leaves_then (perform_leaves _ _ _ (by simp)) (fun _ _ _ => trivial) ?_
  rintro _ _ ⟨tree, last, made, _, rfl⟩
  have changed := (before.mkdir_some _ tree made).2
  refine leaves_mono (publish_staged_leaves _ settings stage fingerprint output times
    old before normalized accepted ?_ rfl distinct) ?_ (fun _ _ held => held)
  · intro path
    exact (changed _).trans (if_neg (by simp [temporaryPath, outputPath]))
  · rintro manifest after ⟨written, first, returned⟩
    exact ⟨normalized, written, first, returned⟩

theorem without_temporary_file (tree : FileTree) (path : Path) :
    (withoutTemporary tree).fileAt (outputPath path) = tree.fileAt (outputPath path) := by
  apply tree.fileAt_congr
  rw [withoutTemporary, FileTree.removeTree_node, if_neg (output_apart _ _)]

theorem publish_returned (stage : Stage) (fingerprint : Json F)
    (output : StageOutput F) (times : StageTimes F) (fault : Option Fault)
    (state after : Publication F) (nothing : Unit)
    (returns : publish settings stage fingerprint output times fault state = .ok nothing after) :
    ∃ manifest normalized written first tree,
      Returned settings stage fingerprint output times (priorManifest state.prior stage) state.tree
        manifest tree normalized written first ∧
      after = {
        tree := withoutTemporary tree
        stages := setMember stage.text manifest state.stages
        prior := setMember stage.text manifest state.prior } := by
  have leaves := publish_tree_leaves state.tree fault settings stage fingerprint output times
    (priorManifest state.prior stage)
  unfold publish at returns
  split at returns
  · rename_i manifest progress found
    cases returns
    rcases leaves_ok _ _ _ _ _ _ leaves found with ⟨normalized, written, first, returned⟩
    exact ⟨manifest, normalized, written, first, progress.tree, returned, rfl⟩
  · cases returns

/-- What a manifest lists for a path that holds the given bytes. -/
def listing (settings : Settings F) (relative : Relative) (data : List UInt8) : Json F :=
  .obj [("path", .str relative.text), ("sha256", .str (Sha256.hexdigest data)),
    ("record_count", .int (countLines data)), ("byte_count", .int data.length),
    ("schema_version", .str settings.schemaVersion)]

/-- The path of an artifact holds what the artifact's payload is encoded to. -/
def Holds (settings : Settings F) (tree : FileTree) (artifact : String × Payload F)
    (relative : Relative) (data : List UInt8) : Prop := safeRelative artifact.1 = .ok relative ∧
    (∃ count, encodePayload settings.recursionLimit artifact.2 = .ok (data, count)) ∧
    tree.fileAt (outputPath relative.parts) = some data

/-- Every artifact is on disk as its payload is encoded, and the stage's manifest on disk is the
one of the run, listing every path with the bytes on disk. -/
structure Faithful (settings : Settings F) (stage : Stage) (output : StageOutput F)
    (after : Publication F) : Prop where
  artifacts : ∀ artifact ∈ output.artifacts, ∃ relative data,
    Holds settings after.tree artifact relative data
  manifest : ∃ manifest items, field stage.text (.obj after.stages) = some manifest ∧
    after.tree.fileAt (manifestPath stage) = some (canonicalJson manifest ++ [10]) ∧
    field "artifacts" manifest = some (.arr items) ∧
    (∀ artifact ∈ output.artifacts, ∃ relative data,
      Holds settings after.tree artifact relative data ∧ listing settings relative data ∈ items) ∧
    ∀ item ∈ items, ∃ artifact ∈ output.artifacts, ∃ relative data,
      Holds settings after.tree artifact relative data ∧ item = listing settings relative data

/-- The paths handled before an artifact: those of the stage's earlier manifest that it does not
publish again, and those of the artifacts whose paths come first. -/
def ComesBefore (old : Json F) (output : StageOutput F) (relative : Relative) (parts : Path) :
    Prop := (∃ path ∈ oldPaths old, pathParts path = parts ∧
      ∀ other ∈ output.artifacts, ∀ own, safeRelative other.1 = .ok own → own.text ≠ path) ∨
    ∃ other ∈ output.artifacts, ∃ own, safeRelative other.1 = .ok own ∧ own.parts = parts ∧
      own.text < relative.text

/-- Where an artifact's path is the place in which a file that comes before it is set aside, the
file held the artifact's bytes already. -/
def PlacesApart (settings : Settings F) (old : Json F) (output : StageOutput F)
    (before : FileTree) : Prop := ∀ artifact ∈ output.artifacts, ∀ relative data count parts bytes,
    safeRelative artifact.1 = .ok relative →
    encodePayload settings.recursionLimit artifact.2 = .ok (data, count) →
    relative.parts = "backups" :: parts → ComesBefore old output relative parts →
    before.fileAt (outputPath parts) = some bytes → bytes = data

theorem record_listing (artifact : String × Payload F) (record : Written) (data : List UInt8)
    (recorded : Recorded settings artifact.2 record data) :
    (record.toJson : Json F) = listing settings record.relative data := by
  simp [Written.toJson, listing, recorded.digest, recorded.records, recorded.bytes, recorded.schema]

section

variable (settings : Settings F) (stage : Stage) (fingerprint : Json F) (output : StageOutput F)
  (times : StageTimes F) (old : Json F) (before : FileTree) (manifest : Json F) (tree : FileTree)
  (normalized : List (Relative × Payload F)) (written : List Written) (first : FileTree)
  (returned : Returned settings stage fingerprint output times old before manifest tree normalized
    written first)

include returned

theorem returned_record (artifact : String × Payload F) (member : artifact ∈ output.artifacts) :
    ∃ record ∈ written, ∃ data, safeRelative artifact.1 = .ok record.relative ∧
      Recorded settings artifact.2 record data ∧ first.fileAt record.staged = some data := by
  have listed : (safeRelative artifact.1, artifact.2) ∈
      normalized.map fun artifact => (Except.ok artifact.1, artifact.2) := by
    rw [← returned.accepted.safe]
    exact List.mem_map.mpr ⟨artifact, member, rfl⟩
  rcases List.mem_map.mp listed with ⟨own, inside, same⟩
  simp only [Prod.mk.injEq] at same
  rcases staged_record settings first _ written returned.staged own
    ((List.perm_insertionSort _ _).mem_iff.mpr inside) with ⟨record, held, relative, data, facts⟩
  refine ⟨record, held, data, ?_, same.2 ▸ facts.1, facts.2⟩
  rw [relative, ← same.1]

theorem returned_artifact (record : Written) (member : record ∈ written) :
    ∃ artifact ∈ output.artifacts, ∃ data, safeRelative artifact.1 = .ok record.relative ∧
      Recorded settings artifact.2 record data ∧ first.fileAt record.staged = some data := by
  rcases staged_artifact settings first _ written returned.staged record member with
    ⟨own, inside, relative, data, facts⟩
  have listed : ((Except.ok own.1 : Checked Relative), own.2) ∈
      output.artifacts.map fun artifact => (safeRelative artifact.1, artifact.2) := by
    rw [returned.accepted.safe]
    exact List.mem_map.mpr ⟨own, (List.perm_insertionSort _ _).mem_iff.mp inside, rfl⟩
  rcases List.mem_map.mp listed with ⟨artifact, held, same⟩
  simp only [Prod.mk.injEq] at same
  exact ⟨artifact, held, data, relative ▸ same.1, same.2 ▸ facts.1, facts.2⟩

theorem comes_before_iff (record : Written) (parts : Path) :
    ComesBefore old output record.relative parts ↔
      Earlier written ((stalePaths old written).map pathParts) record parts := by
  have texts : ∀ path, (∀ other ∈ output.artifacts, ∀ own, safeRelative other.1 = .ok own →
      own.text ≠ path) ↔ path ∉ written.map (·.relative.text) := by
    intro path
    constructor
    · intro none member
      rcases List.mem_map.mp member with ⟨other, inside, same⟩
      rcases returned_artifact settings stage fingerprint output times old before manifest tree
        normalized written first returned other inside with ⟨artifact, held, _, safe, _⟩
      exact none artifact held _ safe same
    · intro none artifact held own safe same
      rcases returned_record settings stage fingerprint output times old before manifest tree
        normalized written first returned artifact held with ⟨other, inside, _, also, _⟩
      cases safe.symm.trans also
      exact none (List.mem_map.mpr ⟨other, inside, same⟩)
  unfold ComesBefore Earlier
  refine or_congr ?_ ?_
  · simp only [texts, stalePaths, List.mem_map, mem_sortedSet, List.mem_filter, Bool.not_eq_true',
      Bool.eq_false_iff, ne_eq, List.contains_iff_mem]
    constructor
    · rintro ⟨path, member, shape, absent⟩
      exact ⟨path, ⟨member, absent⟩, shape⟩
    · rintro ⟨path, ⟨member, absent⟩, shape⟩
      exact ⟨path, member, shape, absent⟩
  · constructor
    · rintro ⟨artifact, held, own, safe, shape, below⟩
      rcases returned_record settings stage fingerprint output times old before manifest tree
        normalized written first returned artifact held with ⟨other, inside, _, also, _⟩
      cases safe.symm.trans also
      exact ⟨other, inside, shape, below⟩
    · rintro ⟨other, inside, shape, below⟩
      rcases returned_artifact settings stage fingerprint output times old before manifest tree
        normalized written first returned other inside with ⟨artifact, held, _, safe, _⟩
      exact ⟨artifact, held, _, safe, shape, below⟩

theorem returned_published (record : Written) (member : record ∈ written) :
    ∃ data, (withoutTemporary tree).fileAt (outputPath record.relative.parts) = some data ∧
      Content first written ((stalePaths old written).map pathParts) record data := by
  rcases returned.replaced.published record member with ⟨data, stands, content⟩
  exact ⟨data, (without_temporary_file tree _).trans stands, content⟩

/-- The artifacts hold their bytes exactly where no other file was set aside in their place. -/
theorem places_apart_iff : PlacesApart settings old output before ↔ ∀ record ∈ written, ∀ data,
      first.fileAt record.staged = some data →
        (withoutTemporary tree).fileAt (outputPath record.relative.parts) = some data := by
  have records := returned_record settings stage fingerprint output times old before manifest tree
    normalized written first returned
  have comes := comes_before_iff settings stage fingerprint output times old before manifest tree
    normalized written first returned
  have published := returned_published settings stage fingerprint output times old before manifest
    tree normalized written first returned
  have files (path : Path) := before.fileAt_congr first (outputPath path) (returned.same path)
  have place : ∀ record : Written, ∀ parts,
      record.staged = backupPath parts ↔ record.relative.parts = "backups" :: parts := by
    simp [Written.staged, backupPath, temporaryPath]
  constructor
  · intro apart record member data stands
    rcases published record member with ⟨held, holds, content⟩
    rcases returned_artifact settings stage fingerprint output times old before manifest tree
      normalized written first returned record member with
      ⟨artifact, inside, own, safe, recorded, staged⟩
    cases stands.symm.trans staged
    rw [holds]
    by_cases free : ∀ parts, record.staged = backupPath parts →
        Earlier written ((stalePaths old written).map pathParts) record parts →
        first.fileAt (outputPath parts) = none
    · exact (content.own free).symm.trans stands
    · push Not at free
      rcases free with ⟨parts, shape, earlier, other⟩
      rcases Option.ne_none_iff_exists'.mp other with ⟨bytes, found⟩
      rw [content.taken parts bytes shape earlier found, apart artifact inside _ data _ parts bytes
        safe recorded.encoded ((place record parts).mp shape) ((comes record parts).mpr earlier)
        ((files parts).symm.trans found)]
  · intro all artifact member relative data count parts bytes safe encoded shape before' found
    rcases records artifact member with ⟨record, inside, own, also, recorded, staged⟩
    cases safe.symm.trans also
    cases encoded.symm.trans recorded.encoded
    rcases published record inside with ⟨held, holds, content⟩
    have same := content.taken parts bytes ((place record parts).mpr shape)
      ((comes record parts).mp before') ((files parts).trans found)
    rw [all record inside data staged] at holds
    exact same.symm.trans (Option.some.inj holds).symm

theorem manifest_items : field "artifacts" manifest = some (.arr (written.map Written.toJson)) := by
  rw [returned.listed]
  simp [manifestJson, field]

theorem manifest_elsewhere_temporary :
    (withoutTemporary tree).fileAt (manifestPath stage) = some (canonicalJson manifest ++ [10]) := by
  rw [← returned.bytes, ← returned.replaced.manifest]
  exact without_temporary_file tree _

theorem returned_faithful_iff (after : Publication F) (disk : after.tree = withoutTemporary tree)
    (recorded : field stage.text (.obj after.stages) = some manifest) :
    Faithful settings stage output after ↔ PlacesApart settings old output before := by
  have records := returned_record settings stage fingerprint output times old before manifest tree
    normalized written first returned
  have artifacts := returned_artifact settings stage fingerprint output times old before manifest
    tree normalized written first returned
  rw [places_apart_iff settings stage fingerprint output times old before manifest tree normalized
    written first returned]
  constructor
  · intro faithful record member data stands
    rcases artifacts record member with ⟨artifact, inside, own, safe, listed, staged⟩
    cases stands.symm.trans staged
    rcases faithful.artifacts artifact inside with ⟨relative, held, also, ⟨count, encoded⟩, holds⟩
    cases safe.symm.trans also
    cases listed.encoded.symm.trans encoded
    exact disk ▸ holds
  · intro all
    have holds : ∀ artifact ∈ output.artifacts, ∃ relative data,
        Holds settings after.tree artifact relative data ∧
          listing settings relative data ∈ written.map Written.toJson := by
      intro artifact member
      rcases records artifact member with ⟨record, inside, data, safe, listed, staged⟩
      refine ⟨record.relative, data, ⟨safe, ⟨_, listed.encoded⟩, disk ▸ all record inside data staged⟩,
        List.mem_map.mpr ⟨record, inside, ?_⟩⟩
      exact record_listing settings artifact record data listed
    refine ⟨fun artifact member => ?_, manifest, written.map Written.toJson, recorded, ?_,
      ?_, holds, ?_⟩
    · rcases holds artifact member with ⟨relative, data, held, _⟩
      exact ⟨relative, data, held⟩
    · rw [disk]
      exact manifest_elsewhere_temporary settings stage fingerprint output times old before manifest
        tree normalized written first returned
    · exact manifest_items settings stage fingerprint output times old before manifest tree
        normalized written first returned
    · intro item member
      rcases List.mem_map.mp member with ⟨record, inside, rfl⟩
      rcases artifacts record inside with ⟨artifact, own, data, safe, listed, staged⟩
      exact ⟨artifact, own, record.relative, data,
        ⟨safe, ⟨_, listed.encoded⟩, disk ▸ all record inside data staged⟩,
        record_listing settings artifact record data listed⟩

end

/-- A publication that returned is faithful exactly where no artifact has the place in which
another file is set aside before. -/
theorem publish_faithful_iff (settings : Settings F) (stage : Stage) (fingerprint : Json F)
    (output : StageOutput F) (times : StageTimes F) (fault : Option Fault)
    (state after : Publication F) (nothing : Unit)
    (returns : publish settings stage fingerprint output times fault state = .ok nothing after) :
    Faithful settings stage output after ↔
      PlacesApart settings (priorManifest state.prior stage) output state.tree := by
  rcases publish_returned settings stage fingerprint output times fault state after nothing returns
    with ⟨manifest, normalized, written, first, tree, returned, rfl⟩
  exact returned_faithful_iff settings stage fingerprint output times _ state.tree manifest tree
    normalized written first returned _ rfl (setMember_field stage.text manifest state.stages)

end

inductive Instant where
  | noon
  deriving DecidableEq

instance : FloatText Instant := ⟨fun _ => true, fun _ => "0.5".toList, fun _ => some .noon⟩

def sampleSettings : Settings Instant where
  schemaVersion := "2.7"
  toolVersion := "0.6.0"
  implementationVersions := []
  databaseFingerprint := "database"
  queryPackHash := "queries"
  configHash := "config"
  modelFingerprint := "model"
  reportFingerprint := ""
  configFingerprint := "config"
  runIdentity := []
  resume := false
  shown := fun path => "out/" ++ path
  recursionLimit := 1000

def sampleTimes : StageTimes Instant := ⟨.noon, .noon, .noon⟩

def sampleTree : FileTree :=
  ((FileTree.empty.mkdir (outputPath [])).bind fun tree =>
    tree.write (outputPath ["a"]) [1, 2]).getD .empty

def samplePublish (output : StageOutput Instant) (fault : Option Fault) :
    EStateM.Result Raised (Publication Instant) Unit :=
  publish sampleSettings .entries (.obj []) output sampleTimes fault ⟨sampleTree, [], []⟩

def returnedState (result : EStateM.Result Raised (Publication Instant) Unit) :
    Publication Instant :=
  match result with
  | .ok _ state => state
  | .error _ state => state

def isReturned (result : EStateM.Result Raised (Publication Instant) Unit) : Bool :=
  match result with
  | .ok _ _ => true
  | .error _ _ => false

theorem isReturned_ok (result : EStateM.Result Raised (Publication Instant) Unit)
    (returns : isReturned result = true) : result = .ok () (returnedState result) := by
  cases result with
  | ok nothing state => rfl
  | error raised state => cases returns

def separateOutput : StageOutput Instant := ⟨[("b", .bytes [5])], []⟩

theorem publish_faithful_iff_separate : Faithful sampleSettings .entries separateOutput
        (returnedState (samplePublish separateOutput none)) ↔
      PlacesApart sampleSettings (.obj []) separateOutput sampleTree :=
  publish_faithful_iff sampleSettings .entries (.obj []) separateOutput sampleTimes none
    ⟨sampleTree, [], []⟩ _ () (isReturned_ok _ (by decide +kernel))

/-- Two artifacts, the second with the path at which the first one's file is set aside. -/
def crossingOutput : StageOutput Instant := ⟨[("a", .bytes [5]), ("backups/a", .bytes [6])], []⟩

theorem crossing_artifact_lost :
    samplePublish crossingOutput none = .ok () (returnedState (samplePublish crossingOutput none)) ∧
      ¬ Faithful sampleSettings .entries crossingOutput
        (returnedState (samplePublish crossingOutput none)) := by
  refine ⟨isReturned_ok _ (by decide +kernel), fun faithful => ?_⟩
  rcases faithful.artifacts ("backups/a", .bytes [6]) (by simp [crossingOutput]) with
    ⟨relative, data, safe, ⟨count, encoded⟩, holds⟩
  have parts : relative.parts = ["backups", "a"] :=
    (safeRelative_parts _ _ safe).trans (by decide +kernel)
  have bytes : data = [6] := by
    simp [encodePayload, payloadData, bind, Except.bind, require, maxTotalBytes, maxRecords,
      countLines, pure, Except.pure] at encoded
    exact encoded.1.symm
  have disk : (returnedState (samplePublish crossingOutput none)).tree.fileAt
      (outputPath ["backups", "a"]) = some [1, 2] := by decide +kernel
  rw [parts, disk, bytes] at holds
  exact absurd holds (by decide)

end DosWeb.Pipeline
