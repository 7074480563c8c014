import DosWeb.Aggregate.Publication

/-!
The publication of a generation: what it leaves when it is done, and whatever is kept by its steps
when it is cut.
-/

namespace DosWeb.Aggregate

variable (aggregator : Aggregator) (staging : Staging) (names : Names)

/-- The pending directory and the generation have new names. -/
def Fresh (root : Root) : Prop :=
  root.generations names.pending = none ∧ root.generations names.generation = none

/-- Every directory of the generations that was there is as it was. -/
def Grown (before after : Root) : Prop := ∀ directory, before.generations directory ≠ none →
    after.generations directory = before.generations directory

/-- Every output, the pointer, the generation and the marker describe the aggregation. -/
structure Published (root : Root) : Prop extends Pointed aggregator root staging names where
  outputs : ∀ output ∈ staging.outputs, root.entries output.1 = some (.file output.2)
  owner : root.entries ownerName = some (.file (.document ownerDocument))

structure Stable (kept : Root → Prop) : Prop where
  generations : ∀ before after, kept before → after.entries = before.entries →
    Grown before after → kept after
  output : ∀ root output, kept root → output ∈ staging.outputs → kept (root.write output.1 output.2)
  pointer : ∀ root, kept root → Complete aggregator root staging names →
    kept (root.write currentName (.document (pointerDocument names.generation)))
  owner : ∀ root, kept root → Pointed aggregator root staging names →
    kept (root.write ownerName (.document ownerDocument))

/-- The pending directory holds the outputs but for some last ones. -/
structure Pending (before : Root) (rest : List (String × Content)) (after : Root) : Prop where
  entries : after.entries = before.entries
  other : ∀ directory, directory ≠ names.pending →
    after.generations directory = before.generations directory
  files : ∃ files, after.generations names.pending = some files ∧
    ∀ output ∈ staging.outputs, output ∉ rest → files output.1 = some output.2

structure Writing (base : Root) (rest : List (String × Content)) (after : Root) : Prop where
  generations : after.generations = base.generations
  other : ∀ name, name ∉ outputNames staging.format → after.entries name = base.entries name
  written : ∀ output ∈ staging.outputs, output ∉ rest →
    after.entries output.1 = some (.file output.2)
  ahead : ∀ output ∈ rest, after.entries output.1 = base.entries output.1

theorem outputs_injective (first second : String × Content) (one : first ∈ staging.outputs)
    (other : second ∈ staging.outputs) (same : first.1 = second.1) : first = second := by
  obtain ⟨name, -, rfl⟩ := List.mem_map.mp one
  obtain ⟨name', -, rfl⟩ := List.mem_map.mp other
  obtain rfl : name = name' := same
  rfl

theorem outputs_later (output : String × Content) (rest : List (String × Content))
    (part : output :: rest <:+ staging.outputs) (other : String × Content)
    (member : other ∈ rest) : other.1 ≠ output.1 := by
  intro same
  have distinct : (staging.outputs.map Prod.fst).Nodup := by
    simpa [Staging.outputs, Function.comp_def] using output_names_nodup staging.format
  have once : ((output :: rest).map Prod.fst).Nodup := distinct.sublist (part.sublist.map Prod.fst)
  rw [List.map_cons, List.nodup_cons] at once
  exact once.1 (List.mem_map.mpr ⟨other, member, same⟩)

variable {aggregator staging names} {kept : Root → Prop} {before after : Root}

theorem pending_grown (rest : List (String × Content)) (fresh : Fresh names before)
    (pending : Pending staging names before rest after) : Grown before after := by
  intro directory present
  apply pending.other
  rintro rfl
  exact present fresh.1

variable (staging) in
theorem pending_start (missing : before.generations names.pending = none) :
    ∃ root, before.makeDirectory names.pending = some root ∧
      Pending staging names before staging.outputs root := by
  refine ⟨_, before.make_directory_some names.pending missing, rfl, ?_, ?_⟩
  · intro directory differ
    exact Function.update_of_ne differ _ _
  · exact ⟨_, Function.update_self _ _ _, fun output member absent => absurd member absent⟩

theorem pending_put (output : String × Content) (rest : List (String × Content))
    (member : output ∈ staging.outputs)
    (pending : Pending staging names before (output :: rest) after) :
    ∃ root, after.putIn names.pending output.1 output.2 = some root ∧
      Pending staging names before rest root := by
  obtain ⟨files, stored, held⟩ := pending.files
  refine ⟨_, after.put_in_some names.pending output.1 output.2 files stored, pending.entries, ?_, ?_⟩
  · intro directory differ
    exact (Function.update_of_ne differ _ _).trans (pending.other directory differ)
  · refine ⟨_, Function.update_self _ _ _, ?_⟩
    intro other inside absent
    by_cases same : other.1 = output.1
    · obtain rfl := outputs_injective staging other output inside member same
      exact Function.update_self _ _ _
    · have apart : other ≠ output := fun equal => same (congrArg Prod.fst equal)
      rw [Function.update_of_ne same]
      exact held other inside (by simp [apart, absent])

variable (aggregator) in
theorem pending_complete (fresh : Fresh names before)
    (pending : Pending staging names before [] after) :
    ∃ described, after.putIn names.pending manifestName
        (.document (manifestDocument aggregator staging names.generation)) = some described ∧
      (described.entries = before.entries ∧ Grown before described) ∧
      ∃ root, described.rename names.pending names.generation = some root ∧
        root.entries = before.entries ∧ Grown before root ∧
        Complete aggregator root staging names := by
  obtain ⟨files, stored, held⟩ := pending.files
  have differ := pending_apart names
  have vacant : after.generations names.generation = none :=
    (pending.other names.generation differ.symm).trans fresh.2
  have grown (directory : String) (present : before.generations directory ≠ none) :
      directory ≠ names.pending ∧ directory ≠ names.generation := by
    constructor
    · rintro rfl
      exact present fresh.1
    · rintro rfl
      exact present fresh.2
  refine ⟨_, after.put_in_some names.pending manifestName _ files stored, ⟨pending.entries, ?_⟩, ?_⟩
  · intro directory present
    have apart := (grown directory present).1
    exact (Function.update_of_ne apart _ _).trans (pending.other directory apart)
  · refine ⟨_, Root.rename_some _ names.pending names.generation _ (Function.update_self _ _ _)
      (by simpa [Function.update_of_ne differ.symm] using vacant), pending.entries, ?_, ?_⟩
    · intro directory present
      obtain ⟨apart, apart'⟩ := grown directory present
      simp only [Function.update_of_ne apart', Function.update_of_ne apart]
      exact pending.other directory apart
    · refine ⟨_, Function.update_self _ _ _, Function.update_self _ _ _, ?_⟩
      intro output member
      have plain := (output_name_apart staging.format output.1 (mem_outputs staging output member)).2.2
      rw [Function.update_of_ne plain]
      exact held output member List.not_mem_nil

theorem stage_ends (disk : Disk) (stable : Stable aggregator staging names kept)
    (held : kept before) (fresh : Fresh names before)
    (start : Pending staging names before staging.outputs disk.root) (raised : Root → Prop) :
    Ends (stageGeneration aggregator staging names) disk
      (fun _ root => root.entries = before.entries ∧ Grown before root ∧
        Complete aggregator root staging names) kept raised := by
  have keeps (rest : List (String × Content)) (root : Root)
      (pending : Pending staging names before rest root) : kept root :=
    stable.generations before root held pending.entries (pending_grown rest fresh pending)
  apply ends_bind _ _ fun _ => Pending staging names before []
  · apply ends_each staging.outputs _ disk (Pending staging names before) start
    intro output rest after part pending
    have member : output ∈ staging.outputs := part.subset (.head _)
    obtain ⟨root, works, next⟩ := pending_put output rest member pending
    exact ends_perform _ root _ works next (keeps _ _ pending)
  · intro _ after pending _
    obtain ⟨described, works, ⟨entries, grown⟩, root, renames, complete⟩ :=
      pending_complete aggregator fresh pending
    apply ends_bind _ _ fun _ root => root = described
    · exact ends_perform _ described _ works rfl (keeps _ _ pending)
    · rintro _ ⟨_, left⟩ rfl _
      exact ends_perform _ root _ renames complete
        (stable.generations before _ held entries grown)

theorem writing_start (base : Root) : Writing staging base staging.outputs base where
  generations := rfl
  other := fun _ _ => rfl
  written := fun _ member absent => absurd member absent
  ahead := fun _ _ => rfl

theorem writing_put (base : Root) (output : String × Content) (rest : List (String × Content))
    (part : output :: rest <:+ staging.outputs)
    (writing : Writing staging base (output :: rest) after) :
    Writing staging base rest (after.write output.1 output.2) := by
  have member : output ∈ staging.outputs := part.subset (.head _)
  constructor
  · exact writing.generations
  · intro name absent
    have differ : name ≠ output.1 := by
      rintro rfl
      exact absent (mem_outputs staging output member)
    rw [Root.write_other _ _ _ _ differ]
    exact writing.other name absent
  · intro other inside absent
    by_cases same : other.1 = output.1
    · obtain rfl := outputs_injective staging other output inside member same
      exact after.write_self other.1 other.2
    · have apart : other ≠ output := fun equal => same (congrArg Prod.fst equal)
      rw [Root.write_other _ _ _ _ same]
      exact writing.written other inside (by simp [apart, absent])
  · intro other inside
    have differ := outputs_later staging output rest part other inside
    rw [Root.write_other _ _ _ _ differ]
    exact writing.ahead other (List.mem_cons_of_mem output inside)

theorem publish_output_ends (disk : Disk) (output : String × Content) (done : Unit → Root → Prop)
    (crashed raised : Root → Prop)
    (regular : ∀ node, disk.root.entries output.1 = some node → ∃ content, node = .file content)
    (holds : done () (disk.root.write output.1 output.2)) (cut : crashed disk.root) :
    Ends (publishOutput aggregator output) disk done crashed raised := by
  have free : disk.root.entries output.1 ≠ some .directory := by
    intro stands
    obtain ⟨content, same⟩ := regular .directory stands
    cases same
  have allowed : (disk.root.exists_ output.1 && (disk.root.contentOf output.1).isNone) = false := by
    cases stands : disk.root.entries output.1 with
    | none => simp [Root.exists_, stands]
    | some node =>
      obtain ⟨content, rfl⟩ := regular node stands
      simp [Root.contentOf, stands, Node.content]
  apply ends_get
  simp only [allowed, Bool.false_eq_true, if_false]
  exact ends_perform _ _ _ (disk.root.put_some output.1 output.2 free) holds cut

theorem publish_ends (disk : Disk) (stable : Stable aggregator staging names kept)
    (held : kept disk.root) (fresh : Fresh names disk.root)
    (regular : ∀ name ∈ outputNames staging.format, ∀ node, disk.root.entries name = some node →
      ∃ content, node = .file content) (free : disk.root.entries currentName ≠ some .directory)
    (free' : disk.root.entries ownerName ≠ some .directory) (raised : Root → Prop) :
    Ends (publishGeneration aggregator staging names) disk
      (fun _ root => Published aggregator staging names root ∧ kept root) kept raised := by
  obtain ⟨made, makes, start⟩ := pending_start staging fresh.1
  apply ends_bind _ _ fun _ root => root = made
  · exact ends_perform _ made _ makes rfl held
  rintro _ ⟨_, left⟩ rfl _
  apply ends_bind _ _ fun _ base => base.entries = disk.root.entries ∧ Grown disk.root base ∧
    Complete aggregator base staging names
  · apply ends_rescued _ _ _ fun _ => False
    · exact stage_ends _ stable held fresh start _
    · intro failure after impossible
      exact absurd impossible id
  rintro _ ⟨base, left⟩ ⟨entries, grown, complete⟩ _
  have based : kept base := stable.generations disk.root base held entries grown
  apply ends_bind _ _ fun _ root => Writing staging base [] root ∧ kept root
  · apply ends_each staging.outputs (publishOutput aggregator) _
      (fun rest root => Writing staging base rest root ∧ kept root) ⟨writing_start base, based⟩
    rintro output rest after part ⟨writing, keeps⟩
    have member : output ∈ staging.outputs := part.subset (.head _)
    apply publish_output_ends after output
    · intro node stands
      rw [writing.ahead output (.head _), entries] at stands
      exact regular output.1 (mem_outputs staging output member) node stands
    · exact ⟨writing_put base output rest part writing, stable.output _ output keeps member⟩
    · exact keeps
  rintro _ ⟨root, left⟩ ⟨writing, keeps⟩ _
  have apart (name : String) (other : name ∉ outputNames staging.format) :
      root.entries name = disk.root.entries name := by
    rw [writing.other name other, entries]
  have current : root.entries currentName ≠ some .directory := by
    rw [apart currentName fun member => (output_name_apart _ _ member).1 rfl]
    exact free
  have owner : root.entries ownerName ≠ some .directory := by
    rw [apart ownerName fun member => (output_name_apart _ _ member).2.1 rfl]
    exact free'
  have stored : Complete aggregator root staging names := by
    obtain ⟨files, found, rest⟩ := complete.generation
    exact ⟨files, by rw [writing.generations]; exact found, rest⟩
  apply ends_bind _ _ fun _ after =>
    after = root.write currentName (.document (pointerDocument names.generation))
  · exact ends_perform _ _ _ (root.put_some currentName _ current) rfl keeps
  rintro _ ⟨next, left⟩ rfl _
  have pointed : Pointed aggregator
      (root.write currentName (.document (pointerDocument names.generation))) staging names :=
    { generation := stored.generation, pointer := root.write_self _ _ }
  have pointing := stable.pointer root keeps stored
  have vacant : (root.write currentName (.document (pointerDocument names.generation))).entries
      ownerName ≠ some .directory := by
    rw [Root.write_other _ _ _ _ current_apart.symm]
    exact owner
  have marks := Root.put_some _ ownerName (.document ownerDocument) vacant
  apply ends_perform _ _ _ marks
  · refine ⟨{ generation := pointed.generation, pointer := ?_, outputs := ?_, owner := ?_ },
      stable.owner _ pointing pointed⟩
    · rw [Root.write_other _ _ _ _ current_apart]
      exact pointed.pointer
    · intro output member
      have others := output_name_apart _ _ (mem_outputs staging output member)
      rw [Root.write_other _ _ _ _ others.2.1, Root.write_other _ _ _ _ others.1]
      exact writing.written output member List.not_mem_nil
    · exact Root.write_self _ _ _
  · exact pointing

end DosWeb.Aggregate
