import DosWeb.Pipeline.Staging

namespace DosWeb.Pipeline

open Library Library.Steps

def Displaced (s : Progress) (path : Path) : Prop :=
  ∃ backup ∈ s.backups, backup.1 <+: outputPath path

section

/-- The artifacts of a stage as the publication finds them: staged, in order of their paths. -/
structure Prepared (first : FileTree) (written : List Written) : Prop where
  staged : ∀ record ∈ written, (first.fileAt record.staged).isSome = true
  sorted : written.Pairwise fun left right => left.relative.text < right.relative.text

variable (first : FileTree) (written : List Written) (stale : List Path)

theorem prepared_apart (prepared : Prepared first written) (one other : Written)
    (oneMember : one ∈ written) (otherMember : other ∈ written)
    (lead : one.relative.parts <+: other.relative.parts) : one.relative = other.relative := by
  rcases lead with ⟨below, shape⟩
  by_cases filled : below = []
  · apply relative_ext
    simpa [filled] using shape
  · have file := prepared.staged one oneMember
    have stands : first.node (one.staged ++ below) ≠ none := by
      intro none
      have last := prepared.staged other otherMember
      have same : other.staged = one.staged ++ below := by
        simp [Written.staged, temporaryPath, shape]
      rw [same, first.fileAt_none _ none] at last
      cases last
    rw [first.fileAt_directory _ (first.above_directory _ _ filled stands)] at file
    cases file

/-- A path that was handled before the artifact's turn comes. -/
def Earlier (record : Written) (parts : Path) : Prop :=
  parts ∈ stale ∨ ∃ other ∈ written, other.relative.parts = parts ∧
    other.relative.text < record.relative.text

/-- What an artifact's file holds: the staged bytes, if no file was set aside in their place. -/
structure Content (record : Written) (data : List UInt8) : Prop where
  taken : ∀ parts bytes, record.staged = backupPath parts → Earlier written stale record parts →
    first.fileAt (outputPath parts) = some bytes → data = bytes
  own : (∀ parts, record.staged = backupPath parts → Earlier written stale record parts →
    first.fileAt (outputPath parts) = none) → first.fileAt record.staged = some data

/-- The files in the course of a publication, before its manifest comes. -/
structure Forward (done : List Path) (moved remaining : List Written) (s : Progress) : Prop where
  kept : ∀ path, ¬ Displaced s path → outputPath path ∉ moved.map Written.destination →
    s.tree.fileAt (outputPath path) = first.fileAt (outputPath path)
  vacated : ∀ path, Displaced s path → outputPath path ∉ moved.map Written.destination →
    s.tree.fileAt (outputPath path) = none
  recorded : ∀ backup ∈ s.backups, ∃ parts ∈ done, backup = (outputPath parts, backupPath parts)
  covered : ∀ parts ∈ done, (first.fileAt (outputPath parts)).isSome = true → Displaced s parts
  staged : ∀ record ∈ remaining, (s.tree.fileAt record.staged).isSome = true
  untouched : ∀ record ∈ remaining, (∀ backup ∈ s.backups, backup.2 ≠ record.staged) →
    s.tree.fileAt record.staged = first.fileAt record.staged
  taken : ∀ record ∈ remaining, ∀ parts, (outputPath parts, backupPath parts) ∈ s.backups →
    backupPath parts = record.staged → s.tree.fileAt record.staged = first.fileAt (outputPath parts)
  placed : ∀ record ∈ remaining, ∀ backup ∈ s.backups, backup.2 <+: record.staged →
    backup.2 = record.staged
  published : ∀ record ∈ moved, ∃ data, s.tree.fileAt record.destination = some data ∧
    Content first written stale record data
  manifest : (∀ record ∈ moved, record.staged ≠ stagedManifest) →
    s.tree.fileAt stagedManifest = first.fileAt stagedManifest
  spent : (∃ record ∈ moved, record.staged = stagedManifest) → s.tree.node stagedManifest = none

variable (done : List Path) (moved remaining : List Written) (s : Progress)

theorem forward_files (tree : FileTree) (fault : Option Fault)
    (forward : Forward first written stale done moved remaining s)
    (same : ∀ path, tree.fileAt path = s.tree.fileAt path)
    (manifest : tree.node stagedManifest = s.tree.node stagedManifest) :
    Forward first written stale done moved remaining (s.with tree fault) where
  kept path outside unmoved := (same _).trans (forward.kept path outside unmoved)
  vacated path inside unmoved := (same _).trans (forward.vacated path inside unmoved)
  recorded := forward.recorded
  covered := forward.covered
  staged record member := by
    simp only [Progress.with, same]
    exact forward.staged record member
  untouched record member other := (same _).trans (forward.untouched record member other)
  taken record member parts backup place :=
    (same _).trans (forward.taken record member parts backup place)
  placed := forward.placed
  published record member := by
    simp only [Progress.with, same]
    exact forward.published record member
  manifest other := (same _).trans (forward.manifest other)
  spent taken := manifest.trans (forward.spent taken)

theorem forward_absent (parts : Path) (forward : Forward first written stale done moved remaining s)
    (absent : s.tree.node (outputPath parts) = none) :
    Forward first written stale (done ++ [parts]) moved remaining s where
  kept := forward.kept
  vacated := forward.vacated
  recorded backup member := by
    rcases forward.recorded backup member with ⟨own, inside, shape⟩
    exact ⟨own, List.mem_append_left _ inside, shape⟩
  covered path member file := by
    rcases List.mem_append.mp member with before | last
    · exact forward.covered path before file
    · by_contra outside
      rw [List.mem_singleton.mp last] at file outside
      have empty := s.tree.fileAt_none _ absent
      by_cases published : outputPath parts ∈ moved.map Written.destination
      · rcases List.mem_map.mp published with ⟨record, inside, same⟩
        rcases forward.published record inside with ⟨data, stands, _⟩
        rw [same, empty] at stands
        cases stands
      · rw [← forward.kept parts outside published, empty] at file
        cases file
  staged := forward.staged
  untouched := forward.untouched
  taken := forward.taken
  placed := forward.placed
  published := forward.published
  manifest := forward.manifest
  spent := forward.spent

theorem backup_apart (parts path : Path) : ¬ outputPath parts <+: temporaryPath path := by
  simp [outputPath, temporaryPath]

theorem output_apart (parts path : Path) : ¬ temporaryPath parts <+: outputPath path := by
  simp [outputPath, temporaryPath]

theorem backup_injective (left right : Path) (same : backupPath left = backupPath right) :
    left = right := by
  simpa [backupPath, temporaryPath] using same

theorem forward_aside (parts : Path) (tree : FileTree) (fault : Option Fault)
    (forward : Forward first written stale done moved remaining s)
    (aside : Aside (outputPath parts) (backupPath parts) s.tree tree)
    (unmoved : ∀ record ∈ moved, ¬ outputPath parts <+: record.destination) :
    Forward first written stale (done ++ [parts]) moved remaining
      { s.with tree fault with
        backups := s.backups ++ [(outputPath parts, backupPath parts)] } where
  kept path outside published := by
    have elsewhere : ¬ outputPath parts <+: outputPath path :=
      fun lead => outside ⟨_, List.mem_append_right _ (List.mem_singleton_self _), lead⟩
    have before : ¬ Displaced s path := by
      rintro ⟨backup, member, lead⟩
      exact outside ⟨backup, List.mem_append_left _ member, lead⟩
    rw [← forward.kept path before published]
    exact aside.files _ elsewhere (output_apart _ _)
  vacated path inside published := by
    by_cases own : outputPath parts <+: outputPath path
    · rcases own with ⟨below, shape⟩
      rw [← shape]
      exact tree.fileAt_none _ (aside.gone below)
    · have before : Displaced s path := by
        rcases inside with ⟨backup, member, lead⟩
        rcases List.mem_append.mp member with early | last
        · exact ⟨backup, early, lead⟩
        · rw [List.mem_singleton.mp last] at lead
          exact absurd lead own
      rw [← forward.vacated path before published]
      exact aside.files _ own (output_apart _ _)
  recorded backup member := by
    rcases List.mem_append.mp member with early | last
    · rcases forward.recorded backup early with ⟨own, inside, shape⟩
      exact ⟨own, List.mem_append_left _ inside, shape⟩
    · exact ⟨parts, by simp, List.mem_singleton.mp last⟩
  covered path member file := by
    rcases List.mem_append.mp member with before | last
    · rcases forward.covered path before file with ⟨backup, inside, lead⟩
      exact ⟨backup, List.mem_append_left _ inside, lead⟩
    · rw [List.mem_singleton.mp last]
      exact ⟨_, List.mem_append_right _ (List.mem_singleton_self _), List.prefix_refl _⟩
  staged record member := by
    by_cases own : backupPath parts = record.staged
    · have file := aside.alike (own ▸ forward.staged record member)
      have same := aside.moved_files []
      rw [List.append_nil, List.append_nil] at same
      rw [← own]
      exact same ▸ file
    · have stands := forward.staged record member
      have same := aside.files _ (backup_apart _ _) (aside.not_above _ stands own)
      exact same ▸ stands
  untouched record member other := by
    have own : backupPath parts ≠ record.staged :=
      other _ (List.mem_append_right _ (List.mem_singleton_self _))
    rw [← forward.untouched record member fun backup inside =>
      other backup (List.mem_append_left _ inside)]
    exact aside.files _ (backup_apart _ _)
      (aside.not_above _ (forward.staged record member) own)
  taken record member path backup place := by
    by_cases own : backupPath parts = record.staged
    · obtain rfl := backup_injective _ _ (place.trans own.symm)
      have file := aside.alike (own ▸ forward.staged record member)
      have outside : ¬ Displaced s path := by
        intro inside
        by_cases published : outputPath path ∈ moved.map Written.destination
        · rcases List.mem_map.mp published with ⟨other, within, same⟩
          exact unmoved other within (same ▸ List.prefix_refl _)
        · rw [forward.vacated path inside published] at file
          cases file
      have published : outputPath path ∉ moved.map Written.destination := by
        intro within
        rcases List.mem_map.mp within with ⟨other, inside, same⟩
        exact unmoved other inside (same ▸ List.prefix_refl _)
      have same := aside.moved_files []
      rw [List.append_nil, List.append_nil] at same
      rw [← own, ← forward.kept path outside published]
      exact same
    · rcases List.mem_append.mp backup with early | last
      · rw [← forward.taken record member path early place]
        exact aside.files _ (backup_apart _ _)
          (aside.not_above _ (forward.staged record member) own)
      · simp only [List.mem_singleton, Prod.mk.injEq] at last
        exact absurd (last.2.symm.trans place) own
  placed record member backup inside lead := by
    rcases List.mem_append.mp inside with early | last
    · exact forward.placed record member backup early lead
    · rw [List.mem_singleton.mp last] at lead ⊢
      by_contra differ
      exact aside.not_above _ (forward.staged record member) differ lead
  published record member := by
    rcases forward.published record member with ⟨data, stands, content⟩
    refine ⟨data, ?_, content⟩
    rw [← stands]
    exact aside.files _ (unmoved record member) (output_apart _ _)
  manifest other := by
    rw [← forward.manifest other]
    exact aside.files _ (backup_apart _ _) (by simp [backupPath, stagedManifest, temporaryPath])
  spent taken := by
    rw [← forward.spent taken]
    rcases aside.other stagedManifest (backup_apart _ _)
      (by simp [backupPath, stagedManifest, temporaryPath]) with same | ⟨_, _, above⟩
    · exact same
    · simp [backupPath, stagedManifest, temporaryPath] at above

theorem staged_injective (one other : Written) (same : one.staged = other.staged) :
    one.relative = other.relative := by
  apply relative_ext
  simpa [Written.staged, temporaryPath] using same

theorem destination_injective (one other : Written) (same : one.destination = other.destination) :
    one.relative = other.relative := by
  apply relative_ext
  simpa [Written.destination, outputPath] using same

theorem prepared_distinct (prepared : Prepared first written) (record : Written)
    (shape : written = moved ++ record :: remaining) (other : Written)
    (member : other ∈ moved ∨ other ∈ remaining) : other.relative ≠ record.relative := by
  have sorted := prepared.sorted
  rw [shape, List.pairwise_append, List.pairwise_cons] at sorted
  intro same
  rcases member with before | after
  · have order := sorted.2.2 other before record (.head _)
    rw [same] at order
    exact lt_irrefl _ order
  · have order := sorted.2.1.1 other after
    rw [same] at order
    exact lt_irrefl _ order

theorem content_of_forward (record : Written) (data : List UInt8)
    (handled : ∀ parts, parts ∈ done ↔ parts = record.relative.parts ∨
      Earlier written stale record parts)
    (forward : Forward first written stale done moved (record :: remaining) s)
    (stands : s.tree.fileAt record.staged = some data) :
    Content first written stale record data where
  taken parts bytes place earlier found := by
    have member := (handled parts).mpr (Or.inr earlier)
    rcases forward.covered parts member (by simp [found]) with ⟨backup, inside, lead⟩
    rcases forward.recorded backup inside with ⟨own, _, rfl⟩
    have above : own <+: parts := by simpa [outputPath] using lead
    have same := forward.placed record (.head _) _ inside (by
      rw [place]
      simpa [backupPath, temporaryPath] using above)
    obtain rfl := backup_injective own parts (same.trans place)
    have held := forward.taken record (.head _) own inside same
    rw [stands, found] at held
    exact Option.some.inj held
  own free := by
    rw [← stands]
    refine (forward.untouched record (.head _) ?_).symm
    intro backup inside same
    rcases forward.recorded backup inside with ⟨parts, member, rfl⟩
    rcases (handled parts).mp member with rfl | earlier
    · have long := congrArg List.length same
      simp [backupPath, Written.staged, temporaryPath] at long
    · have held := forward.taken record (.head _) parts inside same
      rw [stands, free parts same.symm earlier] at held
      cases held

theorem forward_moved (prepared : Prepared first written) (record : Written) (tree : FileTree)
    (fault : Option Fault) (shape : written = moved ++ record :: remaining)
    (handled : ∀ parts, parts ∈ done ↔ parts = record.relative.parts ∨
      Earlier written stale record parts)
    (forward : Forward first written stale done moved (record :: remaining) s)
    (relocated : Relocated record.staged record.destination s.tree tree) :
    Forward first written stale done (moved ++ [record]) remaining (s.with tree fault) := by
  have sides : ∀ path, outputPath path ≠ record.staged := by
    simp [Written.staged, temporaryPath, outputPath]
  have others : ∀ other ∈ remaining,
      tree.fileAt other.staged = s.tree.fileAt other.staged := by
    intro other member
    refine relocated.other _ ?_ (by simp [Written.staged, Written.destination, temporaryPath])
    intro same
    exact prepared_distinct first written moved remaining prepared record shape other
      (Or.inr member) (staged_injective _ _ same)
  have elsewhere : ∀ path, outputPath path ∉ (moved ++ [record]).map Written.destination →
      outputPath path ∉ moved.map Written.destination ∧
        tree.fileAt (outputPath path) = s.tree.fileAt (outputPath path) := by
    intro path outside
    simp only [List.map_append, List.map_cons, List.map_nil, List.mem_append, List.mem_singleton,
      not_or] at outside
    exact ⟨outside.1, relocated.other _ (sides path) outside.2⟩
  refine ⟨?_, ?_, forward.recorded, forward.covered, ?_, ?_, ?_, ?_, ?_, ?_, ?_⟩
  · intro path outside published
    have split := elsewhere path published
    exact split.2.trans (forward.kept path outside split.1)
  · intro path inside published
    have split := elsewhere path published
    exact split.2.trans (forward.vacated path inside split.1)
  · intro other member
    simp only [Progress.with, others other member]
    exact forward.staged other (.tail _ member)
  · intro other member free
    exact (others other member).trans
      (forward.untouched other (.tail _ member) free)
  · intro other member parts backup place
    exact (others other member).trans
      (forward.taken other (.tail _ member) parts backup place)
  · exact fun other member => forward.placed other (.tail _ member)
  · intro other member
    rcases List.mem_append.mp member with before | last
    · rcases forward.published other before with ⟨data, stands, content⟩
      refine ⟨data, ?_, content⟩
      rw [← stands]
      refine relocated.other _ (sides _) fun same => ?_
      exact prepared_distinct first written moved remaining prepared record shape other
        (Or.inl before) (destination_injective _ _ same)
    · rw [List.mem_singleton.mp last]
      rcases Option.isSome_iff_exists.mp relocated.present with ⟨data, stands⟩
      exact ⟨data, relocated.moved.trans stands,
        content_of_forward first written stale done moved remaining s record data handled forward
          stands⟩
  · intro free
    rw [← forward.manifest fun other member => free other (List.mem_append_left _ member)]
    refine relocated.other _ ?_ (by simp [stagedManifest, Written.destination, temporaryPath])
    exact (free record (by simp)).symm
  · rintro ⟨other, member, same⟩
    by_cases own : record.staged = stagedManifest
    · exact own ▸ relocated.gone
    · have before : other ∈ moved := by
        rcases List.mem_append.mp member with early | last
        · exact early
        · rw [List.mem_singleton.mp last] at same
          exact absurd same own
      exact relocated.absent _ (Ne.symm own)
        (by simp [stagedManifest, Written.destination, temporaryPath])
        (forward.spent ⟨other, before, same⟩)

theorem set_aside_existing_forward (parts : Path)
    (forward : Forward first written stale done moved remaining s)
    (unmoved : ∀ record ∈ moved, ¬ outputPath parts <+: record.destination) :
    Leaves (setAsideExisting parts) s
      (fun _ after => Forward first written stale (done ++ [parts]) moved remaining after ∧
        after.tree.node (outputPath parts) = none)
      (fun _ _ => True) := by
  unfold setAsideExisting
  refine leaves_then (exists_leaves s (outputPath parts)) (fun _ _ _ => trivial) ?_
  rintro found _ ⟨left, _, rfl, standing⟩
  have same : Forward first written stale done moved remaining (s.with s.tree left) :=
    forward_files first written stale done moved remaining s s.tree left forward (fun _ => rfl) rfl
  split
  · rename_i stands
    refine leaves_mono
      (set_aside_leaves (s.with s.tree left) parts (standing.mp stands)) ?_ (fun _ _ _ => trivial)
    rintro _ after ⟨tree, fault, aside, _, rfl⟩
    refine ⟨forward_aside first written stale done moved remaining _ parts tree fault same aside
      unmoved, ?_⟩
    have gone := aside.gone []
    rwa [List.append_nil] at gone
  · rename_i absent
    have free : s.tree.node (outputPath parts) = none := by
      by_contra other
      exact absent (standing.mpr other)
    exact leaves_pure _ _ _ _
      ⟨forward_absent first written stale done moved remaining _ parts same free, free⟩

theorem set_aside_stale_forward (paths : List String)
    (forward : Forward first written stale [] [] remaining s) : Leaves (paths.forM setAsideStale) s
      (fun _ after => Forward first written stale (paths.map pathParts) [] remaining after)
      (fun _ _ => True) := by
  refine leaves_mono (leaves_each paths setAsideStale s
    (fun rest after => ∃ before, paths = before ++ rest ∧
      Forward first written stale (before.map pathParts) [] remaining after)
    (fun _ _ => True) ⟨[], rfl, forward⟩ ?_) ?_ (fun _ _ held => held)
  · rintro path rest state _ ⟨before, shape, held⟩
    unfold setAsideStale
    refine leaves_then (check_leaves state _) (fun _ _ _ => trivial) ?_
    rintro relative _ ⟨safe, rfl⟩
    rw [safeRelative_parts path relative safe]
    refine leaves_mono (set_aside_existing_forward first written stale _ []
      remaining state (pathParts path) held (by simp)) ?_ (fun _ _ _ => trivial)
    rintro _ after ⟨also, _⟩
    exact ⟨before ++ [path], by simp [shape], by simpa using also⟩
  · rintro _ after ⟨before, shape, held⟩
    rw [List.append_nil] at shape
    exact shape ▸ held

theorem publish_artifact_forward (prepared : Prepared first written) (record : Written)
    (shape : written = moved ++ record :: remaining)
    (handled : ∀ parts, parts ∈ done ↔ Earlier written stale record parts)
    (forward : Forward first written stale done moved (record :: remaining) s) :
    Leaves (publishArtifact record) s
      (fun _ after => Forward first written stale (done ++ [record.relative.parts])
        (moved ++ [record]) remaining after)
      (fun _ _ => True) := by
  have unmoved : ∀ other ∈ moved, ¬ outputPath record.relative.parts <+: other.destination := by
    intro other member lead
    refine prepared_distinct first written moved remaining prepared record shape other
      (Or.inl member) (prepared_apart first written prepared record other (by simp [shape])
        (by simp [shape, member]) ?_).symm
    simpa [Written.destination, outputPath] using lead
  unfold publishArtifact
  refine leaves_then (make_directories_leaves s _) (fun _ _ _ => trivial) ?_
  rintro _ _ ⟨grownTree, left, grown, _, _, rfl⟩
  have ready := forward_files first written stale done moved (record :: remaining) s grownTree left
    forward (grown_fileAt _ _ _ grown) (grown_elsewhere _ _ _ grown _ (by
      rintro ⟨below, shape⟩
      have whole := List.dropLast_prefix record.destination
      rw [← shape] at whole
      simp [stagedManifest, Written.destination, temporaryPath, outputPath] at whole))
  refine leaves_bind _ (set_aside_existing_forward first written stale done moved _ _
    record.relative.parts ready unmoved) ?_
  rintro _ state ⟨held, _⟩
  refine leaves_then (move_leaves state _ _) (fun _ _ _ => trivial) ?_
  rintro _ _ ⟨tree, fault, moves, _, rfl⟩
  have relocated := relocated_of_move _ _ state.tree tree (held.staged record (.head _))
    (by simp [Written.staged, Written.destination, temporaryPath, outputPath]) moves
  have after := forward_moved first written stale _ moved remaining state prepared record tree fault
    shape (by
      intro parts
      rw [List.mem_append, handled parts, List.mem_singleton, or_comm]) held relocated
  refine leaves_bind (fun _ last => Forward first written stale
    (done ++ [record.relative.parts]) (moved ++ [record]) remaining last) ?_ ?_
  · refine leaves_mono (restrict_private_leaves _ record) ?_ (fun _ _ _ => trivial)
    rintro _ last ⟨other, rfl⟩
    exact forward_files first written stale _ _ remaining _ tree other after (fun _ => rfl) rfl
  · rintro _ last held
    exact leaves_modify _ _ _ _ { held with }

theorem earlier_handled (prepared : Prepared first written) (record : Written)
    (shape : written = moved ++ record :: remaining) (parts : Path) :
    parts ∈ stale ++ moved.map (·.relative.parts) ↔ Earlier written stale record parts := by
  have sorted := prepared.sorted
  rw [shape, List.pairwise_append, List.pairwise_cons] at sorted
  rw [List.mem_append, List.mem_map, Earlier]
  refine or_congr_right ⟨?_, ?_⟩
  · rintro ⟨other, member, same⟩
    exact ⟨other, by simp [shape, member], same, sorted.2.2 other member record (.head _)⟩
  · rintro ⟨other, member, same, below⟩
    rw [shape, List.mem_append, List.mem_cons] at member
    rcases member with before | rfl | after
    · exact ⟨other, before, same⟩
    · exact absurd below (lt_irrefl _)
    · exact absurd (lt_trans below (sorted.2.1.1 other after)) (lt_irrefl _)

theorem publish_artifacts_forward (prepared : Prepared first written)
    (forward : Forward first written stale stale [] written s) :
    Leaves (written.forM publishArtifact) s
      (fun _ after => Forward first written stale (stale ++ written.map (·.relative.parts))
        written [] after)
      (fun _ _ => True) := by
  refine leaves_mono (leaves_each written publishArtifact s
    (fun rest after => ∃ before, written = before ++ rest ∧
      Forward first written stale (stale ++ before.map (·.relative.parts)) before rest after)
    (fun _ _ => True) ⟨[], rfl, by simpa using forward⟩ ?_) ?_ (fun _ _ held => held)
  · rintro record rest state _ ⟨before, shape, held⟩
    refine leaves_mono (publish_artifact_forward first written stale _ before rest
      state prepared record shape (earlier_handled first written stale before rest prepared record
        shape) held) ?_ (fun _ _ held => held)
    intro _ after also
    exact ⟨before ++ [record], by simp [shape], by simpa using also⟩
  · rintro _ after ⟨before, shape, held⟩
    rw [List.append_nil] at shape
    exact shape ▸ held

end

variable (stage : Stage) (s : Progress)

theorem set_manifest_aside_files : Leaves (setManifestAside stage) s
      (fun _ after => after.tree.node stagedManifest = s.tree.node stagedManifest ∧
        ∀ path, ¬ manifestPath stage <+: outputPath path →
          after.tree.fileAt (outputPath path) = s.tree.fileAt (outputPath path))
      (fun _ _ => True) := by
  unfold setManifestAside
  refine leaves_then (exists_leaves s _) (fun _ _ _ => trivial) ?_
  rintro found _ ⟨left, _, rfl, _⟩
  split
  · refine leaves_bind (fun _ after => after.tree = s.tree)
      (leaves_modify _ _ _ _ rfl) ?_
    rintro _ state same
    refine leaves_then (move_leaves state _ _) (fun _ _ _ => trivial) ?_
    rintro _ _ ⟨tree, fault, moves, _, rfl⟩
    have facts := state.tree.replace_some _ _ tree
      (by simp [manifestPath, oldManifest, temporaryPath]) moves
    refine leaves_modify _ _ _ _ ⟨?_, ?_⟩
    · rw [← same]
      exact facts.2.2.2 _ (backup_apart _ _) (by simp [oldManifest, stagedManifest, temporaryPath])
    · intro path outside
      rw [← same]
      exact state.tree.fileAt_congr tree _ (facts.2.2.2 _ outside (output_apart _ _))
  · exact leaves_pure _ _ _ _ ⟨rfl, fun _ _ => rfl⟩

theorem swap_manifest_files : Leaves (swapManifest stage) s
      (fun _ after => s.tree.node stagedManifest ≠ none ∧
        ((s.tree.fileAt stagedManifest).isSome = true →
          after.tree.fileAt (manifestPath stage) = s.tree.fileAt stagedManifest) ∧
        ∀ path, ¬ manifestPath stage <+: outputPath path →
          after.tree.fileAt (outputPath path) = s.tree.fileAt (outputPath path))
      (fun _ _ => True) := by
  unfold swapManifest
  refine leaves_then (make_directories_leaves s _) (fun _ _ _ => trivial) ?_
  rintro _ _ ⟨grownTree, left, grown, _, _, rfl⟩
  have staged : grownTree.node stagedManifest = s.tree.node stagedManifest :=
    grown_elsewhere _ _ _ grown _ (by simp [manifestPath, stagedManifest, temporaryPath])
  refine leaves_bind _ (set_manifest_aside_files stage _) ?_
  rintro _ state ⟨same, kept⟩
  refine leaves_bind (fun _ after => after.tree = state.tree)
    (leaves_modify _ _ _ _ rfl) ?_
  intro _ touched held
  refine leaves_then (move_leaves touched _ _) (fun _ _ _ => trivial) ?_
  rintro _ _ ⟨tree, fault, moves, _, rfl⟩
  have facts := touched.tree.replace_some _ _ tree
    (by simp [manifestPath, stagedManifest, temporaryPath]) moves
  have before : touched.tree.node stagedManifest = s.tree.node stagedManifest := by
    rw [held, same]
    exact staged
  refine leaves_mono (perform_leaves _ _ _ (by simp)) ?_ (fun _ _ _ => trivial)
  rintro _ after ⟨last, _, synced, _, rfl⟩
  cases synced
  refine ⟨?_, ?_, ?_⟩
  · rw [← before]
    exact touched.tree.mayReplace_present _ _ facts.1.2.2
  · intro _
    have moved := facts.2.1 []
    rw [List.append_nil, List.append_nil, before] at moved
    exact s.tree.fileAt_moved _ _ _ moved
  · intro path outside
    calc
      _ = touched.tree.fileAt (outputPath path) :=
        touched.tree.fileAt_congr tree _ (facts.2.2.2 _ (output_apart _ _) outside)
      _ = grownTree.fileAt (outputPath path) := by
        rw [held]
        exact kept path outside
      _ = s.tree.fileAt (outputPath path) := grown_fileAt _ _ _ grown _

end DosWeb.Pipeline
