import Mathlib.Data.List.Infix

/-!
A tree of directories and regular files, with the operations of a file system that
programs use to publish files: each either fails and changes nothing, or gives the tree after.
-/

namespace DosWeb.Library

abbrev Path := List String

inductive Node where
  | directory
  | file (data : List UInt8)
  deriving DecidableEq

def listed : List (Path × Node) → Path → Option Node
  | [], _ => none
  | (first, node) :: entries, path => if path = first then some node else listed entries path

theorem listed_filter (keep : Path → Bool) (entries : List (Path × Node)) (path : Path) :
    listed (entries.filter fun entry => keep entry.1) path =
      if keep path then listed entries path else none := by
  induction entries with
  | nil => simp [listed]
  | cons entry entries ih =>
    by_cases kept : keep entry.1
    · rw [List.filter_cons_of_pos (by simpa using kept)]
      by_cases same : path = entry.1
      · simp [listed, same, kept]
      · simp [listed, same, ih]
    · rw [List.filter_cons_of_neg (by simpa using kept), ih]
      by_cases same : path = entry.1
      · simp [same, kept]
      · simp [listed, same]

theorem listed_rename (rename : Path → Path) (entries : List (Path × Node)) (old new : Path)
    (comes : ∀ entry ∈ entries, new = rename entry.1 ↔ old = entry.1) :
    listed (entries.map fun entry => (rename entry.1, entry.2)) new = listed entries old := by
  induction entries with
  | nil => rfl
  | cons entry entries ih =>
    have first := comes entry (.head _)
    have rest := ih (fun other member => comes other (.tail _ member))
    simp only [List.map_cons, listed, rest, first]

theorem listed_none (entries : List (Path × Node)) (path : Path)
    (absent : ∀ entry ∈ entries, path ≠ entry.1) : listed entries path = none := by
  induction entries with
  | nil => rfl
  | cons entry entries ih =>
    have rest := ih (fun other member => absent other (.tail _ member))
    simp [listed, absent entry (.head _), rest]

theorem listed_present (entries : List (Path × Node)) (entry : Path × Node)
    (member : entry ∈ entries) : listed entries entry.1 ≠ none := by
  induction entries with
  | nil => cases member
  | cons first entries ih =>
    unfold listed
    split
    · simp
    · rename_i other
      rcases List.mem_cons.mp member with rfl | later
      · exact absurd rfl other
      · exact ih later

/-- The root is a directory, and whatever the tree holds lies in a directory of the tree. -/
structure FileTree where
  entries : List (Path × Node)
  top : listed entries [] = some .directory
  rooted : ∀ path name, listed entries (path ++ [name]) ≠ none →
    listed entries path = some .directory

namespace FileTree

def empty : FileTree where
  entries := [([], .directory)]
  top := rfl
  rooted path name present := by simp [listed] at present

def node (tree : FileTree) (path : Path) : Option Node := listed tree.entries path

def fileAt (tree : FileTree) (path : Path) : Option (List UInt8) :=
  match tree.node path with
  | some (.file data) => some data
  | _ => none

variable (tree : FileTree)

variable (path : Path)

theorem fileAt_some (data : List UInt8) :
    tree.fileAt path = some data ↔ tree.node path = some (.file data) := by
  unfold fileAt
  split <;> simp_all

theorem fileAt_moved (other : FileTree) (path place : Path)
    (same : other.node place = tree.node path) : other.fileAt place = tree.fileAt path := by
  simp [fileAt, same]

theorem fileAt_congr (other : FileTree) (path : Path) (same : other.node path = tree.node path) :
    other.fileAt path = tree.fileAt path := tree.fileAt_moved other path path same

theorem fileAt_directory (directory : tree.node path = some .directory) :
    tree.fileAt path = none := by
  simp [fileAt, directory]

theorem fileAt_none (absent : tree.node path = none) : tree.fileAt path = none := by
  simp [fileAt, absent]

theorem above_directory (path below : Path) (filled : below ≠ [])
    (present : tree.node (path ++ below) ≠ none) : tree.node path = some .directory := by
  induction below using List.reverseRecOn with
  | nil => exact absurd rfl filled
  | append_singleton front name ih =>
    rw [← List.append_assoc] at present
    have parent : tree.node (path ++ front) = some .directory := tree.rooted _ _ present
    by_cases empty : front = []
    · simpa [empty] using parent
    · exact ih empty (by simp [parent])

theorem below_none (path below : Path) (filled : below ≠ [])
    (other : tree.node path ≠ some .directory) : tree.node (path ++ below) = none := by
  by_contra present
  exact other (tree.above_directory path below filled present)

def place (path : Path) (leaf : Node)
    (parent : ∃ front name, path = front ++ [name] ∧ tree.node front = some .directory)
    (free : tree.node path ≠ some .directory) : FileTree where
  entries := (path, leaf) :: tree.entries
  top := by
    rcases parent with ⟨front, name, rfl, _⟩
    simp [listed, tree.top]
  rooted := by
    rcases parent with ⟨front, name, rfl, directory⟩
    intro above last present
    unfold listed at present ⊢
    split at present
    · rename_i same
      obtain ⟨rfl, _⟩ := List.append_inj' same rfl
      rw [if_neg (by simp)]
      exact directory
    · have stands := tree.rooted above last present
      rw [if_neg, stands]
      rintro rfl
      exact free stands

def hasParent (path : Path) : Bool := path ≠ [] && tree.node path.dropLast = some .directory

theorem hasParent_shape (parent : tree.hasParent path = true) :
    ∃ front name, path = front ++ [name] ∧ tree.node front = some .directory := by
  simp only [hasParent, Bool.and_eq_true, decide_eq_true_eq] at parent
  exact ⟨path.dropLast, path.getLast parent.1, (List.dropLast_append_getLast parent.1).symm,
    parent.2⟩

theorem hasParent_append (front : Path) (name : String) :
    tree.hasParent (front ++ [name]) = true ↔ tree.node front = some .directory := by
  simp [hasParent]

def mkdir (path : Path) : Option FileTree :=
  if made : tree.hasParent path = true ∧ tree.node path = none then
    some (tree.place path .directory (tree.hasParent_shape path made.1) (by simp [made.2]))
  else none

def write (path : Path) (data : List UInt8) : Option FileTree :=
  if written : tree.hasParent path = true ∧ tree.node path ≠ some .directory then
    some (tree.place path (.file data) (tree.hasParent_shape path written.1) written.2)
  else none

def unlink (path : Path) : Option FileTree :=
  if leaf : tree.node path ≠ some .directory then
    some {
      entries := tree.entries.filter fun entry => entry.1 != path
      top := by
        rw [listed_filter (· != path), if_pos, tree.top]
        simp only [bne_iff_ne, ne_eq]
        rintro rfl
        exact leaf tree.top
      rooted := by
        intro above last present
        rw [listed_filter (· != path)] at present ⊢
        split at present
        · have stands := tree.rooted above last present
          rw [if_pos, stands]
          simp only [bne_iff_ne, ne_eq]
          rintro rfl
          exact leaf stands
        · exact absurd rfl present }
  else none

/-- Whether what stands at the source may take the target's place. -/
def mayReplace (source target : Path) : Bool :=
  match tree.node source, tree.node target with
  | some _, none => true
  | some (.file _), some (.file _) => true
  | some .directory, some .directory =>
    tree.entries.all fun entry => !(target.isPrefixOf entry.1) || entry.1 == target
  | _, _ => false

def renamed (source target path : Path) : Path :=
  if source <+: path then target ++ path.drop source.length else path

def movedEntries (source target : Path) : List (Path × Node) :=
  (tree.entries.filter fun entry => !(target.isPrefixOf entry.1)).map fun entry =>
    (renamed source target entry.1, entry.2)

theorem renamed_above (source target below : Path) :
    renamed source target (source ++ below) = target ++ below := by
  simp [renamed]

theorem movedEntries_below (source target below : Path) (apart : ¬ source <+: target)
    (other : ¬ target <+: source) :
    listed (tree.movedEntries source target) (target ++ below) = tree.node (source ++ below) := by
  unfold movedEntries
  have kept : target.isPrefixOf (source ++ below) = false := by
    rw [Bool.eq_false_iff]
    intro inside
    rcases List.prefix_or_prefix_of_prefix (List.isPrefixOf_iff_prefix.mp inside)
      (List.prefix_append source below) with first | second
    · exact other first
    · exact apart second
  rw [listed_rename (renamed source target) _ (source ++ below),
    listed_filter (fun path => !(target.isPrefixOf path)), kept]
  · rfl
  rintro ⟨path, found⟩ member
  have outside := (List.mem_filter.mp member).2
  simp only [Bool.not_eq_true', Bool.eq_false_iff, ne_eq, List.isPrefixOf_iff_prefix] at outside
  constructor
  · intro same
    simp only [renamed] at same
    split at same
    · rename_i inside
      rw [List.append_cancel_left same, List.prefix_iff_eq_append.mp inside]
    · exact absurd ⟨below, same⟩ outside
  · rintro rfl
    exact (renamed_above source target below).symm

theorem movedEntries_source (source target path : Path) (apart : ¬ source <+: target)
    (other : ¬ target <+: source) (inside : source <+: path) :
    listed (tree.movedEntries source target) path = none := by
  apply listed_none
  intro entry member same
  rcases List.mem_map.mp member with ⟨original, _, rfl⟩
  simp only [renamed] at same
  split at same
  · have lead : target <+: path := ⟨_, same.symm⟩
    rcases List.prefix_or_prefix_of_prefix inside lead with first | second
    · exact apart first
    · exact other second
  · rename_i outside
    exact outside (same ▸ inside)

theorem movedEntries_other (source target path : Path) (outside : ¬ source <+: path)
    (elsewhere : ¬ target <+: path) :
    listed (tree.movedEntries source target) path = tree.node path := by
  unfold movedEntries
  have kept : target.isPrefixOf path = false := by
    simpa only [Bool.eq_false_iff, ne_eq, List.isPrefixOf_iff_prefix] using elsewhere
  rw [listed_rename (renamed source target) _ path,
    listed_filter (fun path => !(target.isPrefixOf path)), kept]
  · rfl
  rintro ⟨original, found⟩ _
  constructor
  · intro same
    simp only [renamed] at same
    split at same
    · exact absurd ⟨_, same.symm⟩ elsewhere
    · exact same
  · rintro rfl
    simp [renamed, outside]

/-- Moves a file or a directory with all it holds. A file may take a file's place, and a
directory that of an empty directory; nothing moves into itself. -/
def replace (source target : Path) : Option FileTree :=
  if source = target then
    if tree.node source = none then none else some tree
  else if moves : (¬ source <+: target ∧ ¬ target <+: source) ∧ tree.hasParent target = true ∧
      tree.mayReplace source target = true then
    some {
      entries := tree.movedEntries source target
      top := by
        rw [tree.movedEntries_other, node, tree.top]
        · exact fun lead => moves.1.1 (List.prefix_nil.mp lead ▸ List.nil_prefix)
        · exact fun lead => moves.1.2 (List.prefix_nil.mp lead ▸ List.nil_prefix)
      rooted := by
        rcases moves with ⟨⟨apart, other⟩, parent, _⟩
        rcases tree.hasParent_shape target parent with ⟨front, name, shape, directory⟩
        intro above last present
        by_cases inside : target <+: above ++ [last]
        · by_cases whole : target = above ++ [last]
          · obtain ⟨rfl, _⟩ := List.append_inj' (whole.symm.trans shape) rfl
            rw [tree.movedEntries_other, directory]
            · exact fun lead => apart (lead.trans ⟨[last], whole.symm⟩)
            · intro lead
              have long := lead.length_le
              simp only [whole, List.length_append, List.length_singleton] at long
              omega
          · have lead : target <+: above := by
              rcases inside with ⟨below, same⟩
              rcases List.eq_nil_or_concat below with rfl | ⟨front, tip, rfl⟩
              · exact absurd (by simpa using same) whole
              · rw [List.concat_eq_append, ← List.append_assoc] at same
                exact ⟨front, (List.append_inj' same rfl).1⟩
            rcases lead with ⟨below, rfl⟩
            rw [List.append_assoc, tree.movedEntries_below _ _ _ apart other] at present
            rw [tree.movedEntries_below _ _ _ apart other]
            rw [← List.append_assoc] at present
            exact tree.rooted _ _ present
        · by_cases origin : source <+: above ++ [last]
          · exact absurd (tree.movedEntries_source _ _ _ apart other origin) present
          · rw [tree.movedEntries_other _ _ _ origin inside] at present
            rw [tree.movedEntries_other]
            · exact tree.rooted _ _ present
            · exact fun lead => origin (lead.trans (List.prefix_append _ _))
            · exact fun lead => inside (lead.trans (List.prefix_append _ _)) }
  else none

/-- Removes a path with all it holds, if it is not the root. -/
def removeTree (path : Path) (below : path ≠ []) : FileTree where
  entries := tree.entries.filter fun entry => !(path.isPrefixOf entry.1)
  top := by
    rw [listed_filter (fun other => !(path.isPrefixOf other)), if_pos, tree.top]
    cases path with
    | nil => exact absurd rfl below
    | cons name rest => rfl
  rooted := by
    intro above last present
    rw [listed_filter (fun other => !(path.isPrefixOf other))] at present ⊢
    split at present
    · rename_i outside
      have stands := tree.rooted above last present
      rw [if_pos, stands]
      simp only [Bool.not_eq_true', Bool.eq_false_iff, ne_eq, List.isPrefixOf_iff_prefix] at outside ⊢
      exact fun lead => outside (lead.trans (List.prefix_append _ _))
    · exact absurd rfl present

theorem removeTree_node (below : path ≠ []) (other : Path) :
    (tree.removeTree path below).node other = if path <+: other then none else tree.node other := by
  simp only [node, removeTree, listed_filter (fun other => !(path.isPrefixOf other)),
    Bool.not_eq_true', Bool.eq_false_iff, ne_eq, List.isPrefixOf_iff_prefix, ite_not]

theorem mkdir_some (next : FileTree) (made : tree.mkdir path = some next) :
    (tree.hasParent path = true ∧ tree.node path = none) ∧
      ∀ other, next.node other = if other = path then some .directory else tree.node other := by
  unfold mkdir at made
  split at made
  · rename_i ready
    cases made
    exact ⟨ready, fun other => rfl⟩
  · cases made

theorem mkdir_succeeds (parent : tree.hasParent path = true)
    (free : tree.node path = none) : ∃ next, tree.mkdir path = some next := by
  simp [mkdir, parent, free]

theorem write_some (data : List UInt8) (next : FileTree)
    (written : tree.write path data = some next) :
    (tree.hasParent path = true ∧ tree.node path ≠ some .directory) ∧
      ∀ other, next.node other = if other = path then some (.file data) else tree.node other := by
  unfold write at written
  split at written
  · rename_i ready
    cases written
    exact ⟨ready, fun other => rfl⟩
  · cases written

variable (source target : Path)

theorem replace_some (next : FileTree) (differ : source ≠ target)
    (moved : tree.replace source target = some next) :
    ((¬ source <+: target ∧ ¬ target <+: source) ∧ tree.hasParent target = true ∧
        tree.mayReplace source target = true) ∧
      (∀ below, next.node (target ++ below) = tree.node (source ++ below)) ∧
      (∀ path, source <+: path → next.node path = none) ∧
      ∀ path, ¬ source <+: path → ¬ target <+: path → next.node path = tree.node path := by
  unfold replace at moved
  rw [if_neg differ] at moved
  split at moved
  · rename_i ready
    cases moved
    exact ⟨ready, fun below => tree.movedEntries_below _ _ _ ready.1.1 ready.1.2,
      fun path inside => tree.movedEntries_source _ _ _ ready.1.1 ready.1.2 inside,
      fun path outside elsewhere => tree.movedEntries_other _ _ _ outside elsewhere⟩
  · cases moved

theorem mayReplace_present (may : tree.mayReplace source target = true) :
    tree.node source ≠ none := by
  intro absent
  simp [mayReplace, absent] at may

theorem mayReplace_file_target (data : List UInt8)
    (file : tree.node source = some (.file data)) (may : tree.mayReplace source target = true) :
    tree.node target ≠ some .directory := by
  intro directory
  simp [mayReplace, file, directory] at may

theorem mayReplace_directory (directory : tree.node source = some .directory) :
    tree.mayReplace source target = true ↔
      tree.node target = none ∨ (tree.node target = some .directory ∧
        ∀ below, below ≠ [] → tree.node (target ++ below) = none) := by
  unfold mayReplace
  rw [directory]
  cases standing : tree.node target with
  | none => simp
  | some found =>
    cases found with
    | file data => simp
    | directory =>
      simp only [reduceCtorEq, true_and, false_or, List.all_eq_true, Bool.or_eq_true,
        Bool.not_eq_true', beq_iff_eq, Bool.eq_false_iff, ne_eq, List.isPrefixOf_iff_prefix]
      constructor
      · intro all below filled
        apply listed_none
        intro entry member same
        rcases all entry member with outside | whole
        · exact outside ⟨below, same⟩
        · rw [whole] at same
          exact filled (by simpa using same)
      · intro none entry member
        by_cases inside : target <+: entry.1
        · rcases inside with ⟨below, same⟩
          by_cases whole : below = []
          · exact Or.inr (by simpa [whole] using same.symm)
          · have present := listed_present _ _ member
            rw [← same] at present
            exact absurd (none below whole) present
        · exact Or.inl inside

theorem mayReplace_target_file (data : List UInt8)
    (file : tree.node target = some (.file data)) (may : tree.mayReplace source target = true) :
    ∃ new, tree.node source = some (.file new) := by
  unfold mayReplace at may
  rw [file] at may
  split at may
  · rename_i absent
    cases absent
  · rename_i new _ stands _
    exact ⟨new, stands⟩
  · rename_i absent
    cases absent
  · cases may

theorem mayReplace_bare (may : tree.mayReplace source target = true)
    (below : Path) (filled : below ≠ []) : tree.node (target ++ below) = none := by
  by_cases directory : tree.node target = some .directory
  · have other := tree.mayReplace_present source target may
    rcases Option.ne_none_iff_exists'.mp other with ⟨found, stands⟩
    cases found with
    | file data => exact absurd directory (tree.mayReplace_file_target source target data stands may)
    | directory =>
      rcases (tree.mayReplace_directory source target stands).mp may with free | ⟨_, bare⟩
      · simp [free] at directory
      · exact bare below filled
  · exact tree.below_none target below filled directory

end FileTree

end DosWeb.Library
