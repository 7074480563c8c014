import DosWeb.Pipeline.Publish

namespace DosWeb.Pipeline

open Library Library.Steps

/-- Where a call does not fail, no fault was placed, or the fault is that of another call. -/
structure Passed (before after : Option Fault) : Prop where
  clear : before = none → after = none
  chmod : ∀ path, after = some ⟨.chmod path, 0⟩ → before = some ⟨.chmod path, 0⟩

theorem passed_refl (fault : Option Fault) : Passed fault fault :=
  ⟨fun none => none, fun _ same => same⟩

theorem passed_trans (first second third : Option Fault) (one : Passed first second)
    (two : Passed second third) : Passed first third :=
  ⟨fun clear => two.clear (one.clear clear), fun path same => one.chmod path (two.chmod path same)⟩

theorem passed_after (operation : Operation) (fault : Option Fault)
    (other : ∀ path, operation ≠ .chmod path) : Passed fault (Fault.after operation fault) := by
  constructor
  · rintro rfl
    rfl
  · intro path same
    cases fault with
    | none => simp [Fault.after] at same
    | some fault =>
      simp only [Fault.after] at same
      split at same
      · rename_i own
        simp only [Option.some.injEq, Fault.mk.injEq] at same
        exact absurd (own.symm.trans same.1) (other path)
      · exact same

/-- The state after a call: another tree, and what is left of the fault. -/
def Progress.with (progress : Progress) (tree : FileTree) (fault : Option Fault) : Progress :=
  { progress with tree := tree, fault := fault }

section

variable {α : Type} (s : Progress)

theorem call_leaves (operation : Operation) (effect : FileTree → Option (α × FileTree)) :
    Leaves (call operation effect) s
      (fun value after => ∃ tree, effect s.tree = some (value, tree) ∧
        after = s.with tree (Fault.after operation s.fault))
      (fun _ after => after = s.with s.tree none ∧
        (s.fault = some ⟨operation, 0⟩ ∨ effect s.tree = none)) := by
  unfold Leaves call
  split
  · rename_i value after found
    split at found
    · cases found
    · split at found
      · cases found
      · rename_i tree given
        cases found
        exact ⟨tree, given, rfl⟩
  · rename_i raised after found
    split at found
    · rename_i strikes
      cases found
      exact ⟨rfl, Or.inl strikes⟩
    · split at found
      · rename_i none
        cases found
        exact ⟨rfl, Or.inr none⟩
      · cases found

theorem perform_leaves (operation : Operation) (effect : FileTree → Option FileTree)
    (other : ∀ path, operation ≠ .chmod path) : Leaves (perform operation effect) s
      (fun _ after => ∃ tree fault, effect s.tree = some tree ∧ Passed s.fault fault ∧
        after = s.with tree fault)
      (fun _ after => after = s.with s.tree none ∧ (s.fault = none → effect s.tree = none)) := by
  refine leaves_mono (call_leaves s operation _) ?_ ?_
  · rintro _ after ⟨tree, given, rfl⟩
    rcases Option.map_eq_some_iff.mp given with ⟨_, found, pair⟩
    cases pair
    exact ⟨tree, _, found, passed_after operation s.fault other, rfl⟩
  · rintro _ after ⟨rfl, strikes | none⟩
    · exact ⟨rfl, fun clear => by simp [clear] at strikes⟩
    · exact ⟨rfl, fun _ => by simpa using none⟩

theorem exists_leaves (path : Path) : Leaves (exists_ path) s
      (fun found after => ∃ fault, Passed s.fault fault ∧ after = s.with s.tree fault ∧
        (found = true ↔ s.tree.node path ≠ none))
      (fun _ after => after = s.with s.tree none ∧ s.fault ≠ none) := by
  refine leaves_mono (call_leaves s (.exists_ path) _) ?_ ?_
  · rintro found after ⟨tree, given, rfl⟩
    cases given
    exact ⟨_, passed_after _ s.fault (by simp), rfl, by simp⟩
  · rintro _ after ⟨rfl, strikes | none⟩
    · exact ⟨rfl, by simp [strikes]⟩
    · cases none

theorem move_leaves (source target : Path) : Leaves (move source target) s
      (fun _ after => ∃ tree fault, s.tree.replace source target = some tree ∧
        Passed s.fault fault ∧ after = s.with tree fault)
      (fun _ after => after = s.with s.tree none ∧
        (s.fault = none → s.tree.replace source target = none)) := perform_leaves s _ _ (by simp)

end

variable (s : Progress)

theorem restrict_private_leaves (record : Written) : Leaves (restrictPrivate record) s
      (fun _ after => ∃ fault, after = s.with s.tree fault)
      (fun _ after => after = s.with s.tree none ∧ isPrivate record.relative = true ∧
        (s.fault = some ⟨.chmod record.destination, 0⟩ ∨
          s.tree.node record.destination = none)) := by
  unfold restrictPrivate
  split
  · rename_i own
    refine leaves_mono (call_leaves s _ _) ?_ ?_
    · rintro _ after ⟨tree, given, rfl⟩
      rcases Option.map_eq_some_iff.mp given with ⟨next, found, pair⟩
      cases pair
      simp only [Option.ite_none_left_eq_some, Option.some.injEq] at found
      rw [← found.2]
      exact ⟨_, rfl⟩
    · rintro _ after ⟨rfl, strikes | none⟩
      · exact ⟨rfl, own, Or.inl strikes⟩
      · exact ⟨rfl, own, Or.inr (by simpa using none)⟩
  · exact ⟨s.fault, rfl⟩

/-- Nothing changed but that directories above or at the path may be new. -/
def Grown (path : Path) (before after : FileTree) : Prop :=
  ∀ other, after.node other = before.node other ∨
    (before.node other = none ∧ after.node other = some .directory ∧ other <+: path)

section

variable (path : Path) (before after : FileTree)

theorem grown_refl : Grown path before before := fun _ => Or.inl rfl

theorem grown_trans (last : FileTree) (one : Grown path before after)
    (two : Grown path after last) : Grown path before last := by
  intro other
  rcases two other with same | ⟨none, directory, above⟩
  · rw [same]
    exact one other
  · rcases one other with same | ⟨_, other, _⟩
    · exact Or.inr ⟨same ▸ none, directory, above⟩
    · rw [other] at none
      cases none

section

variable (grown : Grown path before after) (other : Path)

include grown

theorem grown_fileAt : after.fileAt other = before.fileAt other := by
  rcases grown other with same | ⟨none, directory, _⟩
  · exact before.fileAt_congr after other same
  · rw [after.fileAt_directory other directory, before.fileAt_none other none]

theorem grown_present (present : before.node other ≠ none) :
    after.node other = before.node other := by
  rcases grown other with same | ⟨none, _, _⟩
  · exact same
  · exact absurd none present

theorem grown_elsewhere (outside : ¬ other <+: path) : after.node other = before.node other := by
  rcases grown other with same | ⟨_, _, above⟩
  · exact same
  · exact absurd above outside

end

theorem grown_above (above : Path) (lead : above <+: path) (grown : Grown above before after) :
    Grown path before after := by
  intro other
  rcases grown other with same | ⟨none, directory, within⟩
  · exact Or.inl same
  · exact Or.inr ⟨none, directory, within.trans lead⟩

end

theorem make_directory_leaves (path : Path) : Leaves (makeDirectory path) s
      (fun _ after => ∃ tree fault, Grown path s.tree tree ∧ tree.node path = some .directory ∧
        Passed s.fault fault ∧ after = s.with tree fault)
      (fun _ after => after = s.with s.tree none ∧ (s.fault = none →
        (∃ front name, path = front ++ [name] ∧ s.tree.node front ≠ some .directory) ∨
          (s.tree.fileAt path).isSome = true)) := by
  unfold makeDirectory
  refine leaves_get ?_
  split
  · rename_i other
    refine leaves_mono (perform_leaves s (.mkdir path) _ (by simp)) ?_ ?_
    · rintro _ after ⟨tree, fault, made, passed, rfl⟩
      have changed := (s.tree.mkdir_some path tree made).2
      refine ⟨tree, fault, ?_, by simp [changed], passed, rfl⟩
      intro place
      by_cases same : place = path
      · subst same
        exact Or.inr ⟨(s.tree.mkdir_some place tree made).1.2, by simp [changed],
          List.prefix_refl _⟩
      · exact Or.inl (by simp [changed, same])
    · rintro _ after ⟨rfl, structural⟩
      refine ⟨rfl, fun clear => ?_⟩
      have refused := structural clear
      rcases List.eq_nil_or_concat path with rfl | ⟨front, name, rfl⟩
      · exact absurd s.tree.top other
      · rw [List.concat_eq_append] at refused other ⊢
        by_cases parent : s.tree.node front = some .directory
        · right
          have standing : s.tree.node (front ++ [name]) ≠ none := by
            intro free
            rcases s.tree.mkdir_succeeds _ ((s.tree.hasParent_append front name).mpr parent) free with
              ⟨next, made⟩
            simp [made] at refused
          rcases Option.ne_none_iff_exists'.mp standing with ⟨node, stands⟩
          cases node with
          | directory => exact absurd stands other
          | file data => simp [FileTree.fileAt, stands]
        · exact Or.inl ⟨front, name, rfl, parent⟩
  · rename_i directory
    refine leaves_pure _ _ _ _ ⟨s.tree, s.fault, grown_refl path s.tree, ?_, passed_refl _, rfl⟩
    simpa using directory

theorem make_directories_from_leaves (front : Path) (rest : List String)
    (parent : ∀ above name, front = above ++ [name] → s.tree.node above = some .directory) :
    Leaves (makeDirectoriesFrom front rest) s
      (fun _ after => ∃ tree fault, Grown (front ++ rest) s.tree tree ∧
        tree.node (front ++ rest) = some .directory ∧ Passed s.fault fault ∧
        after = s.with tree fault)
      (fun _ after => ∃ tree, Grown (front ++ rest) s.tree tree ∧ after = s.with tree none ∧
        (s.fault = none → ∃ other, other <+: front ++ rest ∧
          (s.tree.fileAt other).isSome = true)) := by
  induction rest generalizing front s with
  | nil =>
    simp only [List.append_nil]
    refine leaves_mono (make_directory_leaves s front) (fun _ _ held => held) ?_
    rintro _ after ⟨rfl, structural⟩
    refine ⟨s.tree, grown_refl _ _, rfl, fun clear => ?_⟩
    rcases structural clear with ⟨above, name, shape, other⟩ | file
    · exact absurd (parent above name shape) other
    · exact ⟨front, List.prefix_refl _, file⟩
  | cons name rest ih =>
    have lead : front <+: front ++ name :: rest := List.prefix_append _ _
    refine leaves_then (make_directory_leaves s front) ?_ ?_
    · rintro _ after ⟨rfl, structural⟩
      refine ⟨s.tree, grown_refl _ _, rfl, fun clear => ?_⟩
      rcases structural clear with ⟨above, name, shape, other⟩ | file
      · exact absurd (parent above name shape) other
      · exact ⟨front, lead, file⟩
    · rintro _ _ ⟨tree, fault, grown, directory, passed, rfl⟩
      have inner := ih (s.with tree fault) (front ++ [name]) (by
        intro above last shape
        rw [← (List.append_inj' shape rfl).1]
        exact directory)
      rw [List.append_assoc, List.singleton_append] at inner
      refine leaves_mono inner ?_ ?_
      · rintro _ after ⟨last, left, more, made, also, rfl⟩
        exact ⟨last, left, grown_trans _ _ _ _ (grown_above _ _ _ front lead grown) more, made,
          passed_trans _ _ _ passed also, rfl⟩
      · rintro _ after ⟨last, more, rfl, structural⟩
        refine ⟨last, grown_trans _ _ _ _ (grown_above _ _ _ front lead grown) more, rfl, ?_⟩
        intro clear
        rcases structural (passed.clear clear) with ⟨other, above, file⟩
        refine ⟨other, above, ?_⟩
        rwa [← grown_fileAt front s.tree tree grown other]

theorem make_directories_leaves (path : Path) : Leaves (makeDirectories path) s
      (fun _ after => ∃ tree fault, Grown path s.tree tree ∧ tree.node path = some .directory ∧
        Passed s.fault fault ∧ after = s.with tree fault)
      (fun _ after => ∃ tree, Grown path s.tree tree ∧ after = s.with tree none ∧
        (s.fault = none → ∃ other, other <+: path ∧ (s.tree.fileAt other).isSome = true)) := by
  exact make_directories_from_leaves s [] path (by simp)

/-- What setting a file or directory aside does: the backup becomes what the destination was, and
nothing stood below the backup. Directories on the way to the backup may be new. -/
structure Aside (destination backup : Path) (before after : FileTree) : Prop where
  present : before.node destination ≠ none
  moved : ∀ below, after.node (backup ++ below) = before.node (destination ++ below)
  gone : ∀ below, after.node (destination ++ below) = none
  other : ∀ path, ¬ destination <+: path → ¬ backup <+: path → after.node path = before.node path ∨
      (before.node path = none ∧ after.node path = some .directory ∧ path <+: backup)
  bare : ∀ below, below ≠ [] → before.node (backup ++ below) = none
  alike : (before.fileAt backup).isSome = true → (before.fileAt destination).isSome = true
  clearWay : ∀ above below, below ≠ [] → backup = above ++ below → before.fileAt above = none

namespace Aside

variable {destination backup : Path} {before after : FileTree}
variable (aside : Aside destination backup before after)

include aside

theorem files (path : Path) (source : ¬ destination <+: path) (target : ¬ backup <+: path) :
    after.fileAt path = before.fileAt path := by
  rcases aside.other path source target with same | ⟨none, directory, _⟩
  · exact before.fileAt_congr after path same
  · rw [after.fileAt_directory _ directory, before.fileAt_none _ none]

theorem moved_files (below : Path) :
    after.fileAt (backup ++ below) = before.fileAt (destination ++ below) := by
  simp [FileTree.fileAt, aside.moved]

/-- A file that stands is no part of what the backup is made of, or it is the backup's place. -/
theorem not_above (path : Path) (file : (before.fileAt path).isSome = true)
    (differ : backup ≠ path) : ¬ backup <+: path := by
  rintro ⟨below, rfl⟩
  have filled : below ≠ [] := by
    rintro rfl
    simp at differ
  rw [before.fileAt_none _ (aside.bare below filled)] at file
  cases file

end Aside

/-- What moving a file to a free place or onto a file does. -/
structure Relocated (source target : Path) (before after : FileTree) : Prop where
  present : (before.fileAt source).isSome = true
  moved : after.fileAt target = before.fileAt source
  gone : after.node source = none
  other : ∀ path, path ≠ source → path ≠ target → after.fileAt path = before.fileAt path
  absent : ∀ path, path ≠ source → path ≠ target → before.node path = none → after.node path = none

theorem relocated_of_move (source target : Path) (before after : FileTree)
    (file : (before.fileAt source).isSome = true) (differ : source ≠ target)
    (moved : before.replace source target = some after) : Relocated source target before after := by
  have facts := before.replace_some _ _ _ differ moved
  rcases Option.isSome_iff_exists.mp file with ⟨data, stands⟩
  rw [FileTree.fileAt_some] at stands
  have leaf : ∀ below, below ≠ [] → before.node (source ++ below) = none := by
    intro below filled
    exact before.below_none source below filled (by simp [stands])
  have free := before.mayReplace_bare _ _ facts.1.2.2
  have other : ∀ path, path ≠ source → path ≠ target →
      after.node path = before.node path ∨ (after.node path = none ∧ before.node path = none) := by
    intro path other elsewhere
    by_cases below : source <+: path
    · rcases below with ⟨rest, rfl⟩
      have filled : rest ≠ [] := by
        rintro rfl
        simp at other
      exact Or.inr ⟨facts.2.2.1 _ (List.prefix_append _ _), leaf rest filled⟩
    · by_cases within : target <+: path
      · rcases within with ⟨rest, rfl⟩
        have filled : rest ≠ [] := by
          rintro rfl
          simp at elsewhere
        exact Or.inr ⟨(facts.2.1 rest).trans (leaf rest filled), free rest filled⟩
      · exact Or.inl (facts.2.2.2 path below within)
  refine ⟨file, ?_, facts.2.2.1 source (List.prefix_refl _), ?_, ?_⟩
  · have same := facts.2.1 []
    rw [List.append_nil, List.append_nil] at same
    simp [FileTree.fileAt, same]
  · intro path differ elsewhere
    rcases other path differ elsewhere with same | ⟨one, two⟩
    · exact before.fileAt_congr after path same
    · rw [after.fileAt_none _ one, before.fileAt_none _ two]
  · intro path differ elsewhere free
    rcases other path differ elsewhere with same | ⟨one, _⟩
    · exact same.trans free
    · exact one

theorem aside_of_move (parts : Path) (before between after : FileTree)
    (present : before.node (outputPath parts) ≠ none)
    (grown : Grown (backupPath parts).dropLast before between)
    (directory : between.node (backupPath parts).dropLast = some .directory)
    (moved : between.replace (outputPath parts) (backupPath parts) = some after) :
    Aside (outputPath parts) (backupPath parts) before after := by
  have differ : outputPath parts ≠ backupPath parts := by simp [outputPath, backupPath, temporaryPath]
  have facts := between.replace_some _ _ _ differ moved
  have outside : ∀ below, between.node (outputPath parts ++ below) =
      before.node (outputPath parts ++ below) := by
    intro below
    refine grown_elsewhere _ _ _ grown _ ?_
    rintro ⟨rest, same⟩
    have whole := List.dropLast_prefix (backupPath parts)
    rw [← same] at whole
    simp [outputPath, backupPath, temporaryPath] at whole
  have bare := between.mayReplace_bare _ _ facts.1.2.2
  refine ⟨present, ?_, ?_, ?_, ?_, ?_, ?_⟩
  · intro below
    rw [facts.2.1, outside]
  · intro below
    exact facts.2.2.1 _ (List.prefix_append _ _)
  · intro path source target
    rw [facts.2.2.2 path source target]
    rcases grown path with same | ⟨none, made, above⟩
    · exact Or.inl same
    · exact Or.inr ⟨none, made, (above.trans <| List.dropLast_prefix _)⟩
  · intro below tail
    by_contra standing
    exact standing (grown_present _ _ _ grown _ standing ▸ bare below tail)
  · intro file
    rcases Option.isSome_iff_exists.mp file with ⟨data, found⟩
    rw [← grown_fileAt _ _ _ grown, FileTree.fileAt_some] at found
    rcases between.mayReplace_target_file _ _ data found facts.1.2.2 with ⟨new, stands⟩
    have same := outside []
    rw [List.append_nil] at same
    rw [same] at stands
    simp [FileTree.fileAt, stands]
  · intro above below tail shape
    rw [← grown_fileAt _ _ _ grown]
    apply between.fileAt_directory
    have lead : above <+: (backupPath parts).dropLast := by
      rcases List.eq_nil_or_concat below with rfl | ⟨front, name, rfl⟩
      · exact absurd rfl tail
      · rw [shape, List.concat_eq_append, ← List.append_assoc, List.dropLast_concat]
        exact List.prefix_append _ _
    rcases lead with ⟨rest, whole⟩
    by_cases last : rest = []
    · rw [← directory, ← whole, last, List.append_nil]
    · refine between.above_directory above rest last ?_
      rw [whole, directory]
      simp

theorem set_aside_leaves (parts : Path) (present : s.tree.node (outputPath parts) ≠ none) :
    Leaves (setAside parts) s
      (fun _ after => ∃ tree fault, Aside (outputPath parts) (backupPath parts) s.tree tree ∧
        Passed s.fault fault ∧ after = { s.with tree fault with
          backups := s.backups ++ [(outputPath parts, backupPath parts)] })
      (fun _ after => ∃ tree, Grown (backupPath parts).dropLast s.tree tree ∧
        after = s.with tree none) := by
  unfold setAside
  refine leaves_then (make_directories_leaves s (backupPath parts).dropLast) ?_ ?_
  · rintro _ after ⟨tree, grown, rfl, _⟩
    exact ⟨tree, grown, rfl⟩
  · rintro _ _ ⟨between, left, grown, directory, passed, rfl⟩
    refine leaves_then (move_leaves (s.with between left) _ _) ?_ ?_
    · rintro _ after ⟨rfl, _⟩
      exact ⟨between, grown, rfl⟩
    · rintro _ _ ⟨tree, fault, moved, also, rfl⟩
      refine leaves_modify _ _ _ _ ⟨tree, fault, ?_, passed_trans _ _ _ passed also, rfl⟩
      exact aside_of_move parts s.tree between tree present grown directory moved

end DosWeb.Pipeline
