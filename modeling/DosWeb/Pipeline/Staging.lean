import DosWeb.Pipeline.Moves

namespace DosWeb.Pipeline

open Artifacts Library Library.JsonText Library.Steps

def SameOutput (before after : FileTree) : Prop :=
  ∀ path, after.node (outputPath path) = before.node (outputPath path)

theorem grown_same_output (path : Path) (before after : FileTree)
    (grown : Grown (temporaryPath path) before after) : SameOutput before after := by
  intro other
  apply grown_elsewhere _ _ _ grown
  intro lead
  simp [outputPath, temporaryPath] at lead

section

variable {α : Type} (s : Progress)

theorem check_leaves (checked : Checked α) :
    Leaves (check checked) s (fun value after => checked = .ok value ∧ s = after)
      (fun _ after => s = after) := by
  cases checked with
  | ok value => exact ⟨rfl, rfl⟩
  | error raised => rfl

theorem read_leaves (path : Path) : Leaves (readFile path) s
      (fun data after => s.tree.fileAt path = some data ∧ ∃ fault, Passed s.fault fault ∧
        after = s.with s.tree fault)
      (fun _ after => after = s.with s.tree none) := by
  refine leaves_mono (call_leaves s (.read path) _) ?_ ?_
  · rintro data after ⟨tree, given, rfl⟩
    rcases Option.map_eq_some_iff.mp given with ⟨held, found, pair⟩
    cases pair
    exact ⟨found, _, passed_after _ s.fault (by simp), rfl⟩
  · rintro _ after ⟨rfl, _⟩
    rfl

theorem handled_leaves (body handler : Publishing Unit) (done : Progress → Prop)
    (broken : Raised → Progress → Prop) (undone : Progress → Prop)
    (leaves : Leaves body s (fun _ after => done after) broken)
    (follows : ∀ raised state, broken raised state →
      Leaves handler state (fun _ after => undone after) (fun _ after => undone after)) :
    Leaves (handled body handler) s (fun _ after => done after) (fun _ after => undone after) := by
  unfold Leaves at leaves ⊢
  unfold handled
  cases found : body s with
  | ok value after => simpa [found] using leaves
  | error raised state =>
    simp only [found] at leaves
    have rest := follows raised state leaves
    unfold Leaves at rest
    cases next : handler state <;> simpa [next] using rest

end

section

variable {F : Type}

/-- Where artifacts are accepted: paths that are safe and differ, none of them below a file. -/
structure Normalized (tree : FileTree) (artifacts : List (String × Payload F))
    (normalized : List (Relative × Payload F)) : Prop where
  safe : artifacts.map (fun artifact => (safeRelative artifact.1, artifact.2)) =
    normalized.map fun artifact => (.ok artifact.1, artifact.2)
  clearWay : ∀ artifact ∈ normalized, ∀ above below, below ≠ [] →
    outputPath artifact.1.parts = above ++ below → tree.fileAt above = none

theorem inspect_leaves (s : Progress) (shown : String → String) (relative : Relative) :
    Leaves (assertNoSymlinkPath shown relative) s
      (fun _ after => (∃ fault, Passed s.fault fault ∧ after = s.with s.tree fault) ∧
        ∀ above below, below ≠ [] → outputPath relative.parts = above ++ below →
          s.tree.fileAt above = none)
      (fun _ after => after = s.with s.tree none) := by
  unfold Leaves assertNoSymlinkPath
  split
  · rename_i value after found
    simp only at found
    split at found
    · cases found
    · rename_i passes
      cases found
      refine ⟨⟨_, passed_after _ s.fault (by simp), rfl⟩, ?_⟩
      intro above below filled shape
      have clear := (not_or.mp passes).2
      simp only [List.any_eq_true, List.mem_inits, not_exists, not_and, Bool.not_eq_true,
        Option.isSome_eq_false_iff, Option.isNone_iff_eq_none] at clear
      apply clear
      rcases List.eq_nil_or_concat below with rfl | ⟨front, name, rfl⟩
      · exact absurd rfl filled
      · rw [shape, List.concat_eq_append, ← List.append_assoc, List.dropLast_concat]
        exact List.prefix_append _ _
  · rename_i raised after found
    simp only at found
    split at found
    · cases found
      rfl
    · cases found

theorem normalize_leaves (s : Progress) (shown : String → String)
    (artifacts : List (String × Payload F)) (normalized : List (Relative × Payload F))
    (distinct : (normalized.map fun artifact => artifact.1.text).Nodup) :
    Leaves (normalizeArtifacts shown artifacts normalized) s
      (fun value after => (∃ fault, Passed s.fault fault ∧ after = s.with s.tree fault) ∧
        (value.map fun artifact => artifact.1.text).Nodup ∧
        ∃ more, value = normalized ++ more ∧ Normalized s.tree artifacts more)
      (fun _ after => after.tree = s.tree) := by
  induction artifacts generalizing s normalized with
  | nil =>
    refine leaves_pure _ _ _ _ ⟨⟨s.fault, passed_refl _, rfl⟩, distinct, [], by simp, rfl, ?_⟩
    intro artifact member
    cases member
  | cons artifact artifacts ih =>
    rcases artifact with ⟨raw, payload⟩
    unfold normalizeArtifacts
    refine leaves_then (check_leaves s _) (by rintro _ _ rfl; rfl) ?_
    rintro relative _ ⟨safe, rfl⟩
    refine leaves_then (check_leaves s _) (by rintro _ _ rfl; rfl) ?_
    rintro _ _ ⟨fresh, rfl⟩
    rw [require_ok] at fresh
    refine leaves_then (inspect_leaves s shown relative) (by rintro _ _ rfl; rfl) ?_
    rintro _ _ ⟨⟨fault, passed, rfl⟩, clearWay⟩
    have also : ((normalized ++ [(relative, payload)]).map
        fun artifact => artifact.1.text).Nodup := by
      simp only [List.all_eq_true, bne_iff_ne] at fresh
      rw [List.map_append, List.nodup_append]
      refine ⟨distinct, by simp, ?_⟩
      rintro _ member _ last rfl
      rcases List.mem_map.mp member with ⟨other, inside, same⟩
      exact fresh other inside (same.trans (by simpa using last))
    refine leaves_mono (ih (s.with s.tree fault) _ also) ?_ ?_
    · rintro value after ⟨⟨last, passes, rfl⟩, unique, more, rfl, rest⟩
      refine ⟨⟨last, passed_trans _ _ _ passed passes, rfl⟩, unique, (relative, payload) :: more,
        by simp, ?_, ?_⟩
      · simp only [List.map_cons, safe, rest.safe]
      · intro other member
        rcases List.mem_cons.mp member with rfl | later
        · exact clearWay
        · exact rest.clearWay other later
    · rintro _ after same
      exact same

end

variable {F : Type} [FloatText F]

/-- What a staged artifact is recorded with, for the bytes its payload is encoded to. -/
structure Recorded (settings : Settings F) (payload : Payload F) (written : Written)
    (data : List UInt8) : Prop where
  encoded : encodePayload settings.recursionLimit payload = .ok (data, written.recordCount)
  digest : written.sha256 = Sha256.hexdigest data
  bytes : written.byteCount = data.length
  records : written.recordCount = countLines data
  schema : written.schemaVersion = settings.schemaVersion

theorem stage_artifact_leaves (s : Progress) (settings : Settings F) (relative : Relative)
    (payload : Payload F) : Leaves (stageArtifact settings relative payload) s
      (fun written after => ∃ tree fault data, SameOutput s.tree tree ∧ Passed s.fault fault ∧
        after = s.with tree fault ∧ written.relative = relative ∧
        Recorded settings payload written data ∧ tree.fileAt written.staged = some data ∧
        ∀ other, other ≠ written.staged → tree.fileAt other = s.tree.fileAt other)
      (fun _ after => SameOutput s.tree after.tree) := by
  unfold stageArtifact
  refine leaves_then (check_leaves s _) (by rintro _ _ rfl _; rfl) ?_
  rintro ⟨data, count⟩ _ ⟨encoded, rfl⟩
  have inside : (temporaryPath relative.parts).dropLast = temporaryPath relative.parts.dropLast := by
    rw [temporaryPath, List.dropLast_cons_of_ne_nil relative.filled]
  simp only [inside]
  refine leaves_then (make_directories_leaves s _) ?_ ?_
  · rintro _ after ⟨tree, grown, rfl, _⟩
    exact grown_same_output _ _ _ grown
  rintro _ _ ⟨grownTree, left, grown, _, passed, rfl⟩
  have same := grown_same_output _ _ _ grown
  refine leaves_then (perform_leaves (s.with grownTree left) _ _ (by simp)) ?_ ?_
  · rintro _ after ⟨rfl, _⟩
    exact same
  rintro _ _ ⟨tree, fault, wrote, also, rfl⟩
  have changed := (grownTree.write_some _ _ tree wrote).2
  have kept : SameOutput s.tree tree := by
    intro path
    rw [changed, if_neg (by simp [outputPath, temporaryPath])]
    exact same path
  refine leaves_then (read_leaves ((s.with grownTree left).with tree fault) _) ?_ ?_
  · rintro _ after rfl
    exact kept
  rintro held _ ⟨read, last, passes, rfl⟩
  have own : held = data := by
    have stands : tree.fileAt (temporaryPath relative.parts) = some data := by
      simp [FileTree.fileAt, changed]
    exact Option.some.inj (read.symm.trans stands)
  subst own
  refine leaves_then (check_leaves _ _) (by rintro _ _ rfl; exact kept) ?_
  rintro _ _ ⟨validated, rfl⟩
  rw [require_ok] at validated
  simp only [Bool.and_eq_true, beq_iff_eq] at validated
  refine leaves_pure _ _ _ _ ⟨tree, last, held, kept,
    passed_trans _ _ _ passed (passed_trans _ _ _ also passes), rfl, rfl, ?_, read, ?_⟩
  · exact ⟨encoded, rfl, rfl, validated.2.symm, rfl⟩
  · intro other differ
    rw [← grown_fileAt _ _ _ grown other]
    exact grownTree.fileAt_congr tree other ((changed other).trans (if_neg differ))

def Staged (settings : Settings F) (tree : FileTree) (artifacts : List (Relative × Payload F))
    (written : List Written) : Prop :=
  List.Forall₂ (fun artifact record => record.relative = artifact.1 ∧ ∃ data,
    Recorded settings artifact.2 record data ∧ tree.fileAt record.staged = some data)
    artifacts written

theorem staged_frame (settings : Settings F) (before after : FileTree)
    (artifacts : List (Relative × Payload F)) (written : List Written)
    (staged : Staged settings before artifacts written)
    (kept : ∀ record ∈ written, after.fileAt record.staged = before.fileAt record.staged) :
    Staged settings after artifacts written := by
  induction staged with
  | nil => exact .nil
  | cons own rest ih =>
    rcases own with ⟨relative, data, recorded, stands⟩
    refine .cons ⟨relative, data, recorded, ?_⟩ (ih fun record member =>
      kept record (.tail _ member))
    rw [kept _ (.head _), stands]

theorem stage_artifacts_leaves (s : Progress) (settings : Settings F)
    (artifacts : List (Relative × Payload F)) (distinct : (artifacts.map Prod.fst).Nodup) :
    Leaves (stageArtifacts settings artifacts) s
      (fun written after => ∃ tree fault, SameOutput s.tree tree ∧ Passed s.fault fault ∧
        after = s.with tree fault ∧ Staged settings tree artifacts written ∧
        ∀ other, other ∉ written.map Written.staged → tree.fileAt other = s.tree.fileAt other)
      (fun _ after => SameOutput s.tree after.tree) := by
  induction artifacts generalizing s with
  | nil => exact ⟨s.tree, s.fault, fun _ => rfl, passed_refl _, rfl, .nil, fun _ _ => rfl⟩
  | cons artifact artifacts ih =>
    rcases artifact with ⟨relative, payload⟩
    have split := List.nodup_cons.mp distinct
    unfold stageArtifacts
    refine leaves_bind _ (stage_artifact_leaves s settings relative payload) ?_
    rintro written _ ⟨tree, left, data, same, passed, rfl, own, recorded, stands, others⟩
    refine leaves_then (ih (s.with tree left) split.2) ?_ ?_
    · rintro _ after kept
      exact fun path => (kept path).trans (same path)
    rintro rest _ ⟨last, fault, kept, also, rfl, staged, frame⟩
    have apart : written.staged ∉ rest.map Written.staged := by
      intro member
      rcases List.mem_map.mp member with ⟨record, inside, path⟩
      have relatives : rest.map Written.relative = artifacts.map Prod.fst := by
        clear * - staged
        induction staged with
        | nil => rfl
        | cons head _ ih => simp [head.1, ih]
      apply split.1
      rw [← relatives]
      refine List.mem_map.mpr ⟨record, inside, ?_⟩
      apply relative_ext
      rw [← own]
      simpa [Written.staged, temporaryPath] using path
    refine leaves_pure _ _ _ _ ⟨last, fault, fun path => (kept path).trans (same path),
      passed_trans _ _ _ passed also, rfl, .cons ⟨own, data, recorded, ?_⟩ staged, ?_⟩
    · rw [frame _ apart]
      exact stands
    · intro other outside
      simp only [List.map_cons, List.mem_cons, not_or] at outside
      rw [frame other outside.2]
      exact others other outside.1

end DosWeb.Pipeline
