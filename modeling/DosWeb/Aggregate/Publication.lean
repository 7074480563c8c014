import DosWeb.Aggregate.Crashes

namespace DosWeb.Aggregate

open Library.JsonValue
open Pipeline (pathParts pathParts_text Relative PlainPart)

section

theorem output_names_nodup (format : Format) : (outputNames format).Nodup := by
  cases format <;> simp [outputNames]

theorem output_name_apart (format : Format) (name : String) (member : name ∈ outputNames format) :
    name ≠ currentName ∧ name ≠ ownerName ∧ name ≠ manifestName := by
  constructor
  · rintro rfl
    cases format <;> simp [outputNames, currentName] at member
  · constructor
    · rintro rfl
      cases format <;> simp [outputNames, ownerName] at member
    · rintro rfl
      cases format <;> simp [outputNames, manifestName] at member

theorem output_name_plain (format : Format) (name : String) (member : name ∈ outputNames format) :
    plainName name = true := by
  have every : (outputNames format).all plainName = true := by
    cases format <;> simp [outputNames, plainName]
  exact List.all_eq_true.mp every name member

theorem current_apart : currentName ≠ ownerName := by decide

variable (names : Names)

theorem pending_apart : names.pending ≠ names.generation := by
  intro same
  have lead := congrArg (fun text => text.toList.head?) same
  simp [Names.pending, Names.generation, String.toList_append] at lead

theorem generation_plain : PlainPart names.generation where
  filled := by
    intro empty
    have lead := congrArg (fun text => text.toList.head?) empty
    simp [Names.generation, String.toList_append] at lead
  here := by
    intro same
    have lead := congrArg (fun text => text.toList.head?) same
    simp [Names.generation, String.toList_append] at lead
  up := by
    intro same
    have lead := congrArg (fun text => text.toList.head?) same
    simp [Names.generation, String.toList_append] at lead
  single := by
    intro member
    rw [Names.generation, String.toList_append, List.mem_append] at member
    rcases member with lead | tail
    · revert lead
      decide
    · exact absurd (names.hex _ tail) (by decide)
  solid := by
    intro member
    rw [Names.generation, String.toList_append, List.mem_append] at member
    rcases member with lead | tail
    · revert lead
      decide
    · exact absurd (names.hex _ tail) (by decide)

/-- The path of a generation's manifest as the pointer gives it. -/
def manifestRelative : Relative where
  parts := [generationsName, names.generation, manifestName]
  filled := by simp
  plain := by
    intro part member
    simp only [List.mem_cons, List.not_mem_nil, or_false] at member
    rcases member with rfl | rfl | rfl
    · constructor <;> decide
    · exact generation_plain names
    · constructor <;> decide
  notRun := by simp
  notManifests := by simp [generationsName]
  notLock := by simp [generationsName]

theorem resolve_manifest : resolve (manifestText names.generation) =
      some [generationsName, names.generation, manifestName] := by
  have parts : pathParts (manifestText names.generation) =
      [generationsName, names.generation, manifestName] := pathParts_text (manifestRelative names)
  have relative : (manifestText names.generation).toList.head? ≠ some '/' := by
    simp [manifestText, generationsName]
  have up : ".." ∉ [generationsName, names.generation, manifestName] := by
    intro member
    exact ((manifestRelative names).plain ".." member).up rfl
  unfold resolve
  rw [parts, if_neg]
  simp only [relative, false_or, not_or]
  exact ⟨by simp, up⟩

end

section

variable (aggregator : Aggregator)

structure Complete (root : Root) (staging : Staging) (names : Names) : Prop where
  generation : ∃ files, root.generations names.generation = some files ∧
    files manifestName = some (.document (manifestDocument aggregator staging names.generation)) ∧
    ∀ output ∈ staging.outputs, files output.1 = some output.2

structure Pointed (root : Root) (staging : Staging) (names : Names) : Prop extends
    Complete aggregator root staging names where
  pointer : root.entries currentName = some (.file (.document (pointerDocument names.generation)))

def stagedSources (staging : Staging) : List (String × String × Content) :=
  (staging.outputs.mergeSort fun left right => left.1 ≤ right.1).map fun output =>
    (output.1, aggregator.sha256 output.2, output.2)

variable (staging : Staging)

theorem mem_outputs (output : String × Content)
    (member : output ∈ staging.outputs) : output.1 ∈ outputNames staging.format := by
  obtain ⟨name, inside, rfl⟩ := List.mem_map.mp member
  exact inside

theorem mem_stagedSources (source : String × String × Content) :
    source ∈ stagedSources aggregator staging ↔
      ∃ output ∈ staging.outputs, source = (output.1, aggregator.sha256 output.2, output.2) := by
  simp [stagedSources, List.mem_mergeSort, eq_comm]

theorem staged_names :
    ((stagedSources aggregator staging).map Prod.fst).Perm (outputNames staging.format) := by
  rw [stagedSources, List.map_map]
  have sorted := (List.mergeSort_perm staging.outputs fun left right => left.1 ≤ right.1).map Prod.fst
  simpa [Staging.outputs, Function.comp_def] using sorted

theorem staged_nodup : ((stagedSources aggregator staging).map Prod.fst).Nodup :=
  (staged_names aggregator staging).nodup_iff.mpr (output_names_nodup staging.format)

theorem mapM_some {α β γ : Type} (items : List α) (shape : α → β) (read : β → Option γ)
    (result : α → γ) (reads : ∀ item ∈ items, read (shape item) = some (result item)) :
    (items.map shape).mapM read = some (items.map result) := by
  induction items with
  | nil => rfl
  | cons item items ih =>
    rw [List.map_cons, List.mapM_cons, reads item (.head _),
      ih fun other member => reads other (List.mem_cons_of_mem item member)]
    rfl

variable {aggregator}

section

variable (root : Root) (staging : Staging) (names : Names)
  (pointed : Pointed aggregator root staging names)

include names pointed

theorem pointed_reads : root.readJson [currentName] = some (pointerDocument names.generation) ∧
      root.readJson [generationsName, names.generation, manifestName] =
        some (manifestDocument aggregator staging names.generation) := by
  obtain ⟨⟨files, stored, manifest, -⟩, pointer⟩ := pointed
  constructor
  · simp [Root.readJson, Root.fileAt, Root.contentOf, pointer, Node.content]
  · simp [Root.readJson, Root.fileAt, stored, manifest]

theorem sources_pointed :
    recoverySources aggregator root = some (stagedSources aggregator staging) := by
  obtain ⟨current, manifest⟩ := pointed_reads root staging names pointed
  obtain ⟨⟨files, stored, -, held⟩, -⟩ := pointed
  have reads := mapM_some
    (staging.outputs.mergeSort fun left right => left.1 ≤ right.1)
    (fun output => (output.1, (.str (aggregator.sha256 output.2) : PlainJson)))
    (fun file => do
      let digest ← textOf file.2
      guard (plainName file.1)
      let content ← root.fileAt ([generationsName, names.generation] ++ [file.1])
      guard (aggregator.sha256 content = digest)
      return (file.1, digest, content))
    (fun output => (output.1, aggregator.sha256 output.2, output.2))
    (by
      intro output member
      have own := List.mem_mergeSort.mp member
      have plain := output_name_plain staging.format output.1 (mem_outputs staging output own)
      simp [textOf, plain, Root.fileAt, stored, held output own])
  simpa [recoverySources, current, pointerDocument, field, textOf, resolve_manifest, manifest,
    manifestDocument, membersOf, stagedHashes, stagedSources] using reads

end

end

variable (aggregator : Aggregator)

def restored (root : Root) (source : String × String × Content) : Option Node :=
  if intact aggregator root source.1 source.2.1 then root.entries source.1
  else some (.file source.2.2)

/-- A recovery has gone through the sources but for some last ones. -/
structure Restoring (sources : List (String × String × Content)) (before : Root)
    (rest : List (String × String × Content)) (after : Root) : Prop where
  generations : after.generations = before.generations
  other : ∀ name, name ∉ sources.map Prod.fst → after.entries name = before.entries name
  handled : ∀ source ∈ sources, source ∉ rest →
    after.entries source.1 = restored aggregator before source
  ahead : ∀ source ∈ rest, after.entries source.1 = before.entries source.1

variable {aggregator}

theorem intact_same (before after : Root) (name digest : String)
    (same : after.entries name = before.entries name) :
    intact aggregator after name digest = intact aggregator before name digest := by
  simp [intact, Root.contentOf, same]

variable (sources : List (String × String × Content))

theorem restoring_start (before : Root) : Restoring aggregator sources before sources before where
  generations := rfl
  other := fun _ _ => rfl
  handled := fun _ member absent => absurd member absent
  ahead := fun _ _ => rfl

theorem restoring_kept (before after : Root)
    (source : String × String × Content) (rest : List (String × String × Content))
    (held : Restoring aggregator sources before (source :: rest) after)
    (sound : intact aggregator after source.1 source.2.1 = true) :
    Restoring aggregator sources before rest after where
  generations := held.generations
  other := held.other
  handled := by
    intro other member absent
    by_cases same : other = source
    · subst same
      have here := held.ahead other (.head _)
      rw [intact_same before after other.1 other.2.1 here] at sound
      rw [restored, if_pos sound, here]
    · exact held.handled other member (by simp [same, absent])
  ahead := fun other member => held.ahead other (List.mem_cons_of_mem source member)

theorem restoring_put (distinct : (sources.map Prod.fst).Nodup) (before after : Root)
    (source : String × String × Content) (rest : List (String × String × Content))
    (part : source :: rest <:+ sources)
    (held : Restoring aggregator sources before (source :: rest) after)
    (broken : intact aggregator after source.1 source.2.1 = false) :
    Restoring aggregator sources before rest (after.write source.1 source.2.2) := by
  have present : source ∈ sources := part.subset (.head _)
  have later (other : String × String × Content) (member : other ∈ rest) : other.1 ≠ source.1 := by
    intro same
    have once : ((source :: rest).map Prod.fst).Nodup := distinct.sublist (part.sublist.map Prod.fst)
    rw [List.map_cons, List.nodup_cons] at once
    exact once.1 (List.mem_map.mpr ⟨other, member, same⟩)
  constructor
  · exact held.generations
  · intro name absent
    have differ : name ≠ source.1 := by
      rintro rfl
      exact absent (List.mem_map.mpr ⟨source, present, rfl⟩)
    rw [Root.write_other _ _ _ _ differ]
    exact held.other name absent
  · intro other member absent
    by_cases same : other = source
    · subst same
      have here := held.ahead other (.head _)
      rw [intact_same before after other.1 other.2.1 here] at broken
      simp [restored, broken]
    · have differ : other.1 ≠ source.1 := fun names =>
        same (List.inj_on_of_nodup_map distinct member present names)
      rw [Root.write_other _ _ _ _ differ]
      exact held.handled other member (by simp [same, absent])
  · intro other member
    rw [Root.write_other _ _ _ _ (later other member)]
    exact held.ahead other (List.mem_cons_of_mem source member)

theorem recover_ends (disk : Disk) (staging : Staging) (names : Names)
    (pointed : Pointed aggregator disk.root staging names)
    (flat : ∀ name ∈ outputNames staging.format, disk.root.entries name ≠ some .directory)
    (raised : Root → Prop) : Ends (recoverPublication aggregator) disk
      (fun _ => Restoring aggregator (stagedSources aggregator staging) disk.root [])
      (fun after => ∃ rest,
        Restoring aggregator (stagedSources aggregator staging) disk.root rest after) raised := by
  have distinct := staged_nodup aggregator staging
  apply ends_get
  simp only [sources_pointed disk.root staging names pointed]
  apply ends_rescued _ _ _ fun _ => False
  · apply ends_each (stagedSources aggregator staging) (restore aggregator) disk
      (fun rest after => Restoring aggregator (stagedSources aggregator staging) disk.root rest after)
      (restoring_start _ _)
    intro source rest after part held
    apply ends_get
    cases sound : intact aggregator after.root source.1 source.2.1 with
    | true =>
      exact ends_pure () _ (restoring_kept _ disk.root after.root source rest held sound)
    | false =>
      have here := held.ahead source (.head _)
      have listed : source.1 ∈ outputNames staging.format :=
        (staged_names aggregator staging).mem_iff.mp
          (List.mem_map.mpr ⟨source, part.subset (.head _), rfl⟩)
      have free : after.root.entries source.1 ≠ some .directory := here ▸ flat source.1 listed
      apply ends_perform (fun root => root.put source.1 source.2.2) _ _
        (Root.put_some after.root source.1 source.2.2 free)
      · exact restoring_put _ distinct disk.root after.root source rest part held sound
      · exact ⟨source :: rest, held⟩
  · intro failure after impossible
    exact absurd impossible id

theorem recover_idle (disk : Disk) (missing : disk.root.entries currentName = none)
    (crashed raised : Root → Prop) :
    Ends (recoverPublication aggregator) disk (fun _ after => after = disk.root) crashed raised := by
  have none_ : recoverySources aggregator disk.root = none := by
    simp [recoverySources, Root.readJson, Root.fileAt, Root.contentOf, missing]
  apply ends_get
  simp only [none_]
  exact ends_pure () _ rfl

end DosWeb.Aggregate
