import DosWeb.Batch.Corpus
import DosWeb.Library.Fallible

/-!
Which source trees their fingerprint tells from all others.
-/

namespace DosWeb.Batch.Corpus

open Library.Frames

abbrev Files := List (TreePath × List UInt8)

def stream (files : Files) : List UInt8 := frames 0 (files.map fun file => (file.1.text, file.2))

/-- The files of a source tree in the order in which they are digested. -/
structure Reads (source : Source) (files : Files) : Prop where
  member : ∀ path content, (path, content) ∈ files ↔ Has source path content
  sorted : files.Pairwise fun left right => codePoints left.1.text ≤ codePoints right.1.text
  distinct : (files.map Prod.fst).Nodup

theorem iter_files (nodes : List (TreePath × Node)) (files : List (TreePath × Option (List UInt8)))
    (returns : iterSourceFiles nodes = .ok files) :
    (files.map Prod.fst).Sublist (nodes.map Prod.fst) ∧ ∀ path content, (path, content) ∈ files ↔
        path.counted = true ∧ (path, .file content) ∈ nodes := by
  induction nodes generalizing files with
  | nil =>
    cases returns
    exact ⟨List.Sublist.refl _, fun path content => by simp⟩
  | cons first rest ih =>
    obtain ⟨own, node⟩ := first
    have skipped (absent : own.counted = false ∨ ∀ content, node ≠ .file content)
        (returns : iterSourceFiles rest = .ok files) :
        (files.map Prod.fst).Sublist (((own, node) :: rest).map Prod.fst) ∧
          ∀ path content, (path, content) ∈ files ↔
            path.counted = true ∧ (path, .file content) ∈ (own, node) :: rest := by
      obtain ⟨part, members⟩ := ih files returns
      refine ⟨part.cons own, ?_⟩
      intro path content
      rw [members, List.mem_cons]
      constructor
      · intro held
        exact ⟨held.1, Or.inr held.2⟩
      · rintro ⟨counted, same | later⟩
        · cases same
          rcases absent with out | none_
          · rw [out] at counted
            cases counted
          · exact absurd rfl (none_ content)
        · exact ⟨counted, later⟩
    unfold iterSourceFiles at returns
    cases counted : own.counted with
    | false =>
      rw [counted] at returns
      exact skipped (Or.inl counted) returns
    | true =>
      rw [counted, if_pos rfl] at returns
      cases node with
      | gone => cases returns
      | link => cases returns
      | other => exact skipped (Or.inr (by simp)) returns
      | file content =>
        obtain ⟨later, run, same⟩ := bind_ok.mp returns
        cases same
        obtain ⟨part, members⟩ := ih later run
        refine ⟨part.cons_cons own, ?_⟩
        intro path content'
        simp only [List.mem_cons, members, Prod.mk.injEq, Node.file.injEq]
        constructor
        · rintro (⟨rfl, rfl⟩ | held)
          · exact ⟨counted, Or.inl ⟨rfl, rfl⟩⟩
          · exact ⟨held.1, Or.inr held.2⟩
        · rintro ⟨inside, ⟨rfl, rfl⟩ | held⟩
          · exact Or.inl ⟨rfl, rfl⟩
          · exact Or.inr ⟨inside, held⟩

theorem digested_frames (paths : List (TreePath × Option (List UInt8))) (bytes : List UInt8)
    (returns : digested paths = .ok bytes) :
    ∃ files : Files, paths = files.map (fun file => (file.1, some file.2)) ∧
      bytes = stream files := by
  induction paths generalizing bytes with
  | nil =>
    cases returns
    exact ⟨[], rfl, rfl⟩
  | cons first rest ih =>
    obtain ⟨path, content⟩ := first
    cases content with
    | none => cases returns
    | some content =>
      obtain ⟨later, run, same⟩ := bind_ok.mp returns
      cases same
      obtain ⟨files, rfl, rfl⟩ := ih later run
      exact ⟨(path, content) :: files, rfl, rfl⟩

theorem order_total (left right : TreePath × Option (List UInt8)) :
    (decide (codePoints left.1.text ≤ codePoints right.1.text) ||
      decide (codePoints right.1.text ≤ codePoints left.1.text)) = true := by
  rcases le_total (codePoints left.1.text) (codePoints right.1.text) with held | held <;> simp [held]

theorem order_trans (first second third : TreePath × Option (List UInt8))
    (one : decide (codePoints first.1.text ≤ codePoints second.1.text) = true)
    (other : decide (codePoints second.1.text ≤ codePoints third.1.text) = true) :
    decide (codePoints first.1.text ≤ codePoints third.1.text) = true := by
  simp only [decide_eq_true_eq] at one other ⊢
  exact le_trans one other

variable (sha256 : List UInt8 → String)

theorem fingerprint_reads (source : Source) (digest : String)
    (accepted : treeFingerprint sha256 source = .ok digest) :
    ∃ files, Reads source files ∧ digest = sha256 (stream files) := by
  obtain ⟨listed, run, after⟩ := bind_ok.mp accepted
  obtain ⟨bytes, reads, same⟩ := bind_ok.mp after
  cases same
  obtain ⟨part, members⟩ := iter_files source.nodes listed run
  obtain ⟨files, shape, rfl⟩ := digested_frames _ bytes reads
  have perm := List.mergeSort_perm listed fun left right =>
    decide (codePoints left.1.text ≤ codePoints right.1.text)
  rw [shape] at perm
  refine ⟨files, ⟨?_, ?_, ?_⟩, rfl⟩
  · intro path content
    have inside : (path, content) ∈ files ↔ (path, some content) ∈ listed := by
      rw [← perm.mem_iff]
      simp
    rw [inside, members]
    rfl
  · have sorted := List.pairwise_mergeSort order_trans order_total listed
    rw [shape, List.pairwise_map] at sorted
    exact sorted.imp fun held => of_decide_eq_true held
  · have names := perm.map Prod.fst
    rw [List.map_map] at names
    exact names.nodup_iff.mpr (part.nodup source.distinct)

structure Standing (files : Files) : Prop where
  counted : ∀ file ∈ files, file.1.counted = true
  sorted : files.Pairwise fun left right => codePoints left.1.text ≤ codePoints right.1.text
  distinct : (files.map Prod.fst).Nodup
  apart : ∀ upper ∈ files, ∀ lower ∈ files, ¬ Below upper.1 lower.1

def Standing.source (files : Files) (standing : Standing files) : Source where
  nodes := files.map fun file => (file.1, .file (some file.2))
  distinct := by
    rw [List.map_map]
    exact standing.distinct
  coherent := by
    intro upper member lower member' below
    obtain ⟨file, inside, rfl⟩ := List.mem_map.mp member
    obtain ⟨file', inside', rfl⟩ := List.mem_map.mp member'
    exact absurd below (standing.apart file inside file' inside')

variable (files : Files)

theorem iter_standing (counted : ∀ file ∈ files, file.1.counted = true) :
    iterSourceFiles (files.map fun file => (file.1, .file (some file.2))) =
      .ok (files.map fun file => (file.1, some file.2)) := by
  induction files with
  | nil => rfl
  | cons file rest ih =>
    have own := counted file (.head _)
    have later := ih fun other member => counted other (.tail _ member)
    rw [List.map_cons, iterSourceFiles, if_pos own, later]
    rfl

theorem digested_standing :
    digested (files.map fun file => (file.1, some file.2)) = .ok (stream files) := by
  induction files with
  | nil => rfl
  | cons file rest ih =>
    rw [List.map_cons, digested, ih]
    rfl

variable (standing : Standing files)

theorem standing_fingerprint :
    treeFingerprint sha256 standing.source = .ok (sha256 (stream files)) := by
  have sorted : (files.map fun file => (file.1, some file.2)).Pairwise fun left right =>
      decide (codePoints left.1.text ≤ codePoints right.1.text) = true := by
    rw [List.pairwise_map]
    exact standing.sorted.imp fun held => decide_eq_true held
  unfold treeFingerprint Standing.source
  rw [iter_standing files standing.counted]
  simp only [bind, Except.bind]
  rw [List.mergeSort_of_pairwise sorted, digested_standing]
  rfl

theorem standing_has (path : TreePath)
    (content : List UInt8) : Has standing.source path content ↔ (path, content) ∈ files := by
  unfold Has Standing.source
  constructor
  · rintro ⟨-, member⟩
    obtain ⟨file, inside, same⟩ := List.mem_map.mp member
    cases same
    exact inside
  · intro member
    exact ⟨standing.counted _ member, List.mem_map.mpr ⟨_, member, rfl⟩⟩

theorem reads_standing (source : Source) (files : Files) (reads : Reads source files) :
    Standing files where
  counted := fun file member => ((reads.member file.1 file.2).mp member).1
  sorted := reads.sorted
  distinct := reads.distinct
  apart := by
    intro upper member lower member' below
    have one := ((reads.member upper.1 upper.2).mp member).2
    have other := ((reads.member lower.1 lower.2).mp member').2
    rcases source.coherent _ one _ other below with stands | stands <;> cases stands

theorem identified_sole (source : Source) (files : Files)
    (reads : Reads source files) (accepted : treeFingerprint sha256 source = .ok (sha256 (stream files)))
    (identified : Identified sha256 source) : files.length ≤ 1 := by
  by_contra many
  obtain ⟨first, second, rest, rfl⟩ : ∃ first second rest, files = first :: second :: rest := by
    cases files with
    | nil => exact absurd (Nat.zero_le 1) many
    | cons first later =>
      cases later with
      | nil => exact absurd (le_refl 1) many
      | cons second rest => exact ⟨first, second, rest, rfl⟩
  have standing := reads_standing source _ reads
  let swallowed : Files := (first.1, first.2 ++ 0 :: (second.1.text ++ 0 :: second.2)) :: rest
  have kept (file : TreePath × List UInt8) (member : file ∈ swallowed) :
      ∃ old ∈ first :: second :: rest, old.1 = file.1 := by
    rcases List.mem_cons.mp member with rfl | later
    · exact ⟨first, .head _, rfl⟩
    · exact ⟨file, by simp [later], rfl⟩
  have part : (swallowed.map Prod.fst).Sublist ((first :: second :: rest).map Prod.fst) :=
    ((List.Sublist.refl (rest.map Prod.fst)).cons second.1).cons_cons first.1
  have merged : Standing swallowed := by
    constructor
    · intro file member
      obtain ⟨old, inside, same⟩ := kept file member
      rw [← same]
      exact standing.counted old inside
    · have sorted := standing.sorted
      rw [List.pairwise_cons, List.pairwise_cons] at sorted
      rw [List.pairwise_cons]
      exact ⟨fun other member => sorted.1 other (.tail _ member), sorted.2.2⟩
    · exact part.nodup standing.distinct
    · intro upper member lower member'
      obtain ⟨old, inside, same⟩ := kept upper member
      obtain ⟨old', inside', same'⟩ := kept lower member'
      rw [← same, ← same']
      exact standing.apart old inside old' inside'
  have equal : stream swallowed = stream (first :: second :: rest) :=
    (frames_merge 0 first.1.text first.2 second.1.text second.2 _).symm
  have missed := identified merged.source (by
    rw [standing_fingerprint, equal, accepted]) second.1 second.2
  rw [standing_has, ← reads.member] at missed
  have present : second ∈ swallowed := missed.mpr (by simp)
  have distinct := standing.distinct
  simp only [List.map_cons, List.nodup_cons, List.mem_cons, not_or] at distinct
  rcases List.mem_cons.mp present with same | later
  · exact distinct.1.1 (by rw [same])
  · exact distinct.2.1 (List.mem_map.mpr ⟨second, later, rfl⟩)

theorem identified_unsplit (source : Source) (path further : TreePath)
    (content before after : List UInt8) (reads : Reads source [(path, content)])
    (accepted : treeFingerprint sha256 source = .ok (sha256 (stream [(path, content)])))
    (identified : Identified sha256 source) (joins : Joins path further) :
    content ≠ before ++ 0 :: (further.text ++ 0 :: after) := by
  rintro rfl
  have counted : path.counted = true := (reads_standing source _ reads).counted _ (.head _)
  have unlike (one : TreePath) : ¬ Below one one := by
    intro below
    have longer := below.length_le
    simp at longer
  have split : Standing [(path, before), (further, after)] := by
    constructor
    · simp [counted, joins.counted]
    · simpa using joins.later
    · simpa using joins.differs.symm
    · simp [unlike, joins.apart.1, joins.apart.2]
  have equal : stream [(path, before), (further, after)] =
      stream [(path, before ++ 0 :: (further.text ++ 0 :: after))] :=
    frames_merge 0 path.text before further.text after []
  have missed := (identified split.source (by
    rw [standing_fingerprint, equal, accepted]) further after).mp
    ((standing_has _ split further after).mpr (by simp))
  rw [← reads.member, List.mem_singleton] at missed
  exact joins.differs (congrArg Prod.fst missed)

theorem unsplittable_reads (source other : Source) (files others : Files) (reads : Reads source files)
    (reads' : Reads other others) (unsplittable : Unsplittable source)
    (same : stream others = stream files) : others = files := by
  obtain ⟨sole, unsplit⟩ := unsplittable
  have keys (record : List UInt8 × List UInt8)
      (member : record ∈ others.map fun file => (file.1.text, file.2)) : 0 ∉ record.1 := by
    obtain ⟨file, -, rfl⟩ := List.mem_map.mp member
    exact file.1.free
  match files, reads with
  | [], _ =>
    cases others with
    | nil => rfl
    | cons file rest => simp [stream, frames] at same
  | [(path, content)], reads =>
    have has := (reads.member path content).mp (.head _)
    rcases frames_single 0 path.text content path.free _ keys same with
      single | ⟨body, further, rest, shape, tail, swallowed⟩
    · obtain ⟨file, rfl, named⟩ := List.map_eq_singleton_iff.mp single
      rw [Prod.mk.injEq] at named
      have equal : file = (path, content) := Prod.ext (TreePath.ext named.1) named.2
      rw [equal]
    · obtain ⟨own, later, rfl, named, shape'⟩ := List.map_eq_cons_iff.mp shape
      obtain ⟨file, last, rfl, rfl, -⟩ := List.map_eq_cons_iff.mp shape'
      rw [Prod.mk.injEq] at named
      obtain ⟨path', content'⟩ := own
      obtain rfl : path' = path := TreePath.ext named.1
      have standing := reads_standing other _ reads'
      have sorted := standing.sorted
      have distinct := standing.distinct
      rw [List.pairwise_cons] at sorted
      simp only [List.map_cons, List.nodup_cons, List.mem_cons, not_or] at distinct
      have joins : Joins path' file.1 := {
        counted := standing.counted file (by simp)
        differs := fun equal => distinct.1.1 equal.symm
        later := sorted.1 file (by simp)
        apart := ⟨standing.apart (path', content') (by simp) file (by simp),
          standing.apart file (by simp) (path', content') (by simp)⟩ }
      exact absurd swallowed (unsplit path' content has file.1 body tail joins)
  | (path, content) :: (path', content') :: rest, reads =>
    exfalso
    have one := (reads.member path content).mp (.head _)
    have two := (reads.member path' content').mp (by simp)
    have distinct := reads.distinct
    simp only [List.map_cons, List.nodup_cons, List.mem_cons, not_or] at distinct
    exact distinct.1.1 (sole path content path' content' one two)

/-- A fingerprint identifies a source tree exactly if the tree has at most one file and no path of a
further file stands between zero bytes of its content. -/
theorem fingerprint_identifies_iff (sha256 : List UInt8 → String) (source : Source) (digest : String)
    (accepted : treeFingerprint sha256 source = .ok digest)
    (collisionFree : ∀ left right, sha256 left = digest → sha256 right = digest → left = right) :
    Identified sha256 source ↔ Unsplittable source := by
  obtain ⟨files, reads, rfl⟩ := fingerprint_reads sha256 source digest accepted
  constructor
  · intro identified
    have few := identified_sole sha256 source files reads accepted identified
    match files, reads, few with
    | [], reads, _ =>
      constructor
      · intro path content _ _ has
        exact absurd ((reads.member path content).mpr has) List.not_mem_nil
      · intro path content has
        exact absurd ((reads.member path content).mpr has) List.not_mem_nil
    | [(path, content)], reads, _ =>
      have only (path' : TreePath) (content' : List UInt8) (has : Has source path' content') :
          path' = path ∧ content' = content := by
        have member := (reads.member path' content').mpr has
        rw [List.mem_singleton] at member
        exact ⟨congrArg Prod.fst member, congrArg Prod.snd member⟩
      constructor
      · intro one _ other _ has has'
        rw [(only one _ has).1, (only other _ has').1]
      · intro path' content' has further before after joins
        obtain ⟨rfl, rfl⟩ := only path' content' has
        exact identified_unsplit sha256 source path' further content' before after reads accepted
          identified joins
  · intro unsplittable other same path content
    rw [accepted] at same
    obtain ⟨others, reads', digests⟩ := fingerprint_reads sha256 other _ same
    have equal := unsplittable_reads source other files others reads reads' unsplittable
      (collisionFree _ _ digests.symm rfl)
    rw [← reads'.member, ← reads.member, equal]

theorem standing_reads : Reads standing.source files where
  member := fun path content => (standing_has files standing path content).symm
  sorted := standing.sorted
  distinct := standing.distinct

def firstPath : TreePath := ⟨[65], by decide, by decide⟩

def secondPath : TreePath := ⟨[66], by decide, by decide⟩

def plainFiles : Files := [(firstPath, [120])]

def pairFiles : Files := [(firstPath, [120]), (secondPath, [121])]

theorem sample_counted : firstPath.counted = true ∧ secondPath.counted = true := by decide

theorem sample_codePoints : codePoints [65] = [65] ∧ codePoints [66] = [66] := by decide

theorem plain_standing : Standing plainFiles where
  counted := by simp [plainFiles, sample_counted]
  sorted := by simp [plainFiles]
  distinct := by simp [plainFiles]
  apart := by simp [plainFiles, firstPath, Below]

theorem pair_standing : Standing pairFiles where
  counted := by simp [pairFiles, sample_counted]
  sorted := by
    simp only [pairFiles, firstPath, secondPath, List.pairwise_pair, sample_codePoints]
    decide
  distinct := by simp [pairFiles, firstPath, secondPath]
  apart := by simp [pairFiles, firstPath, secondPath, Below]

def digestOf (files : Files) (bytes : List UInt8) : String :=
  if bytes = stream files then Library.Sha256.hexdigest bytes else ""

theorem digestOf_free (files : Files) (left right : List UInt8)
    (one : digestOf files left = digestOf files (stream files))
    (other : digestOf files right = digestOf files (stream files)) : left = right := by
  have only (bytes : List UInt8) (same : digestOf files bytes = digestOf files (stream files)) :
      bytes = stream files := by
    by_contra differ
    have filled := Library.Sha256.hexdigest_length (stream files)
    rw [digestOf, digestOf, if_neg differ, if_pos rfl] at same
    rw [← same] at filled
    cases filled
  rw [only left one, only right other]

theorem plain_identified : Identified (digestOf plainFiles) plain_standing.source :=
  (fingerprint_identifies_iff _ _ _ (standing_fingerprint _ _ plain_standing)
    (digestOf_free plainFiles)).mpr (by
      have only (path : TreePath) (content : List UInt8)
          (has : Has plain_standing.source path content) : path = firstPath ∧ content = [120] := by
        simpa [plainFiles] using (standing_has _ plain_standing path content).mp has
      constructor
      · intro path content path' content' has has'
        rw [(only path content has).1, (only path' content' has').1]
      · intro path content has further before after _ same
        have member : (0 : UInt8) ∈ content := by simp [same]
        simp [(only path content has).2] at member)

/-- Two files have the fingerprint of one file that holds both. -/
theorem pair_confused : ¬ ∀ (sha256 : List UInt8 → String) (source : Source) (digest : String),
    treeFingerprint sha256 source = .ok digest →
      (∀ left right, sha256 left = digest → sha256 right = digest → left = right) →
        Identified sha256 source := by
  intro identified
  have accepted := standing_fingerprint (digestOf pairFiles) pairFiles pair_standing
  have sole := identified_sole _ _ pairFiles (standing_reads _ pair_standing) accepted
    (identified _ _ _ accepted (digestOf_free pairFiles))
  simp [pairFiles] at sole

end DosWeb.Batch.Corpus
