import DosWeb.Aggregate.Publishing
import DosWeb.Library.Sha256

/-!
Aggregations one after another over one batch root, each done, refused or cut by a crash: when the
next one brings the root to the generation that it computes.
-/

namespace DosWeb.Aggregate

open Library.Steps Library.JsonValue

section

variable (aggregator : Aggregator)

/-- The root has no file that an aggregation of the format would replace. -/
def Vacant (root : Root) (format : Format) : Prop :=
  ∀ name ∈ outputNames format ++ [currentName], root.exists_ name = false

def Admitted (root : Root) (staging : Staging) : Prop :=
  (root.exists_ ownerName = false ∧ Vacant root staging.format) ∨
    (root.contentOf ownerName).any isOwnerDocument = true ∧
      ((root.readJson [currentName]).any fun pointer => (membersOf pointer).isNone) = false ∧
      (ownershipProven aggregator root staging = some () ∨
        (outputNames staging.format).any root.exists_ = false)

variable {aggregator}

theorem content_exists (root : Root) (name : String) (content : Content)
    (found : root.contentOf name = some content) : root.exists_ name = true := by
  unfold Root.contentOf at found
  unfold Root.exists_
  cases stands : root.entries name with
  | none => simp [stands] at found
  | some node => cases node <;> simp_all [Node.content, Node.exists_]

theorem vacant_iff (root : Root) (format : Format) :
    (outputNames format ++ [currentName]).find? root.exists_ = none ↔ Vacant root format := by
  rw [List.find?_eq_none]
  exact forall_congr' fun name => imp_congr_right fun _ => Bool.not_eq_true _ ▸ Iff.rfl

theorem marked_exists (root : Root) (marked : (root.contentOf ownerName).any isOwnerDocument = true) :
    root.exists_ ownerName = true := by
  obtain ⟨content, found, -⟩ := (Option.any_eq_true _ _).mp marked
  exact content_exists root ownerName content found

theorem is_owned_ends (disk : Disk) (crashed : Root → Prop) : Ends (isOwned disk.root) disk
      (fun owned root => root = disk.root ∧ disk.root.exists_ ownerName = owned ∧
        (owned = true → (disk.root.contentOf ownerName).any isOwnerDocument = true)) crashed
      (fun root => root = disk.root ∧ disk.root.exists_ ownerName = true ∧
        (disk.root.contentOf ownerName).any isOwnerDocument = false) := by
  unfold isOwned
  split
  · rename_i present
    split
    · rename_i found
      apply ends_refuse
      exact ⟨rfl, present, by simp [found]⟩
    · rename_i content found
      split
      · rename_i marked
        apply ends_pure
        exact ⟨rfl, present, fun _ => by simp [found, marked]⟩
      · rename_i unmarked
        apply ends_refuse
        exact ⟨rfl, present, by simpa [found] using unmarked⟩
  · rename_i missing
    apply ends_pure
    exact ⟨rfl, by simpa using missing, nofun⟩

theorem check_ownership_ends (disk : Disk) (staging : Staging) (crashed : Root → Prop) :
    Ends (checkOwnership aggregator staging) disk
      (fun _ root => root = disk.root ∧ Admitted aggregator disk.root staging) crashed
      (fun root => root = disk.root ∧ ¬ Admitted aggregator disk.root staging) := by
  apply ends_get
  apply ends_bind _ _ fun owned root => root = disk.root ∧ disk.root.exists_ ownerName = owned ∧
    (owned = true → (disk.root.contentOf ownerName).any isOwnerDocument = true)
  · apply ends_mono (is_owned_ends disk crashed)
    · exact fun _ _ held => held
    · exact fun _ held => held
    · rintro _ ⟨same, present, unmarked⟩
      refine ⟨same, ?_⟩
      rintro (⟨missing, -⟩ | ⟨marked, -⟩)
      · rw [present] at missing
        cases missing
      · rw [unmarked] at marked
        cases marked
  rintro owned ⟨root, left⟩ ⟨rfl, present, marks⟩ _
  cases owned with
  | false =>
    simp only [Bool.false_eq_true, if_false]
    split
    · rename_i none_
      apply ends_pure
      exact ⟨rfl, Or.inl ⟨present, (vacant_iff _ _).mp none_⟩⟩
    · rename_i name found
      apply ends_refuse
      refine ⟨rfl, ?_⟩
      rintro (⟨-, vacant⟩ | ⟨marked, -⟩)
      · rw [(vacant_iff _ _).mpr vacant] at found
        cases found
      · rw [marked_exists disk.root marked] at present
        cases present
  | true =>
    have marked := marks rfl
    have owned_ (admitted : Admitted aggregator disk.root staging) :
        ((disk.root.readJson [currentName]).any fun pointer => (membersOf pointer).isNone) = false ∧
        (ownershipProven aggregator disk.root staging = some () ∨
          (outputNames staging.format).any disk.root.exists_ = false) := by
      rcases admitted with ⟨missing, -⟩ | ⟨-, rest⟩
      · rw [present] at missing
        cases missing
      · exact rest
    simp only [if_true]
    split
    · rename_i stray
      apply ends_refuse
      refine ⟨rfl, fun admitted => ?_⟩
      rw [(owned_ admitted).1] at stray
      cases stray
    · rename_i object
      split
      · rename_i unproven
        apply ends_refuse
        refine ⟨rfl, fun admitted => ?_⟩
        rcases (owned_ admitted).2 with proven | vacant
        · rw [proven] at unproven
          cases unproven.1
        · rw [vacant] at unproven
          cases unproven.2
      · rename_i proven
        apply ends_pure
        refine ⟨rfl, Or.inr ⟨marked, by simpa using object, ?_⟩⟩
        cases result : ownershipProven aggregator disk.root staging with
        | some _ => exact Or.inl rfl
        | none =>
          rw [not_and] at proven
          exact Or.inr (by simpa using proven result)

end

section

variable (aggregator : Aggregator)

/-- What every aggregation keeps of a root, wherever it stops. -/
structure Kept (root : Root) : Prop where
  plain : ∀ format, ∀ name ∈ outputNames format, ∀ node, root.entries name = some node →
    ∃ content, node = .file content
  pointer : root.entries currentName = none ∨ ∃ staging names, Pointed aggregator root staging names
  owner : root.entries ownerName = none ∨
    root.entries ownerName = some (.file (.document ownerDocument)) ∧
      root.entries currentName ≠ none

variable {aggregator}

variable (before after : Root)

theorem pointed_moved (staging : Staging) (names : Names)
    (pointed : Pointed aggregator before staging names)
    (same : after.entries currentName = before.entries currentName) (grown : Grown before after) :
    Pointed aggregator after staging names := by
  obtain ⟨⟨files, stored, held⟩, pointer⟩ := pointed
  exact {
    generation := ⟨files, by rw [grown names.generation (by simp [stored]), stored], held⟩
    pointer := by rw [same, pointer] }

theorem kept_moved (kept : Kept aggregator before) (grown : Grown before after)
    (outputs : ∀ name, after.entries name = before.entries name ∨
      ∃ format content, name ∈ outputNames format ∧ after.entries name = some (.file content)) :
    Kept aggregator after := by
  have current : after.entries currentName = before.entries currentName := by
    rcases outputs currentName with same | ⟨format, content, member, -⟩
    · exact same
    · exact absurd rfl (output_name_apart format currentName member).1
  have owner : after.entries ownerName = before.entries ownerName := by
    rcases outputs ownerName with same | ⟨format, content, member, -⟩
    · exact same
    · exact absurd rfl (output_name_apart format ownerName member).2.1
  constructor
  · intro format name member node stands
    rcases outputs name with same | ⟨-, content, -, same⟩
    · exact kept.plain format name member node (same ▸ stands)
    · rw [same] at stands
      cases stands
      exact ⟨content, rfl⟩
  · rw [current]
    rcases kept.pointer with missing | ⟨staging, names, pointed⟩
    · exact Or.inl missing
    · exact Or.inr ⟨staging, names, pointed_moved before after staging names pointed current grown⟩
  · rw [owner, current]
    exact kept.owner

theorem kept_stable (staging : Staging) (names : Names) :
    Stable aggregator staging names (Kept aggregator) := by
  constructor
  · intro before after kept entries grown
    exact kept_moved before after kept grown fun name => Or.inl (by rw [entries])
  · intro root output kept member
    apply kept_moved root (root.write output.1 output.2) kept fun _ _ => rfl
    intro name
    by_cases same : name = output.1
    · subst same
      exact Or.inr ⟨staging.format, output.2, mem_outputs staging output member,
        root.write_self _ _⟩
    · exact Or.inl (root.write_other _ name _ same)
  · intro root kept complete
    constructor
    · intro format name member node stands
      rw [root.write_other _ name _ (output_name_apart format name member).1] at stands
      exact kept.plain format name member node stands
    · exact Or.inr ⟨staging, names, { generation := complete.generation, pointer := root.write_self _ _ }⟩
    · rcases kept.owner with missing | ⟨marked, -⟩
      · left
        rw [root.write_other _ _ _ current_apart.symm, missing]
      · right
        rw [root.write_other _ _ _ current_apart.symm, marked, root.write_self]
        simp
  · intro root kept pointed
    constructor
    · intro format name member node stands
      rw [root.write_other _ name _ (output_name_apart format name member).2.1] at stands
      exact kept.plain format name member node stands
    · right
      refine ⟨staging, names, { generation := pointed.generation, pointer := ?_ }⟩
      rw [root.write_other _ _ _ current_apart, pointed.pointer]
    · right
      rw [root.write_other _ _ _ current_apart, pointed.pointer, root.write_self]
      simp

theorem restoring_outputs (staging : Staging) (rest : List (String × String × Content))
    (restoring : Restoring aggregator (stagedSources aggregator staging) before rest after)
    (name : String) : after.entries name = before.entries name ∨
      ∃ content, name ∈ outputNames staging.format ∧ after.entries name = some (.file content) := by
  by_cases listed : name ∈ (stagedSources aggregator staging).map Prod.fst
  · obtain ⟨source, member, rfl⟩ := List.mem_map.mp listed
    by_cases left : source ∈ rest
    · exact Or.inl (restoring.ahead source left)
    · rw [restoring.handled source member left, restored]
      split
      · exact Or.inl rfl
      · exact Or.inr ⟨_, (staged_names aggregator staging).mem_iff.mp listed, rfl⟩
  · exact Or.inl (restoring.other name listed)

theorem kept_restoring (staging : Staging)
    (rest : List (String × String × Content)) (kept : Kept aggregator before)
    (restoring : Restoring aggregator (stagedSources aggregator staging) before rest after) :
    Kept aggregator after := by
  apply kept_moved before after kept fun _ _ => by rw [restoring.generations]
  intro name
  rcases restoring_outputs before after staging rest restoring name with same | ⟨content, member, same⟩
  · exact Or.inl same
  · exact Or.inr ⟨staging.format, content, member, same⟩

variable (aggregator) in
/-- What a recovery leaves: the root as it was without a pointer, or every output intact. -/
def Recovered (before after : Root) : Prop := (before.entries currentName = none ∧ after = before) ∨
    ∃ staging names, Pointed aggregator before staging names ∧
      Restoring aggregator (stagedSources aggregator staging) before [] after

theorem recover_kept (disk : Disk) (kept : Kept aggregator disk.root) (raised : Root → Prop) :
    Ends (recoverPublication aggregator) disk
      (fun _ after => Recovered aggregator disk.root after ∧ Kept aggregator after)
      (Kept aggregator) raised := by
  rcases kept.pointer with missing | ⟨staging, names, pointed⟩
  · apply ends_mono (recover_idle disk missing (fun _ => False) raised)
    · rintro _ _ rfl
      exact ⟨Or.inl ⟨missing, rfl⟩, kept⟩
    · exact fun _ impossible => absurd impossible id
    · exact fun _ held => held
  · have flat (name : String) (member : name ∈ outputNames staging.format) :
        disk.root.entries name ≠ some .directory := by
      intro stands
      obtain ⟨content, same⟩ := kept.plain staging.format name member .directory stands
      cases same
    apply ends_mono (recover_ends disk staging names pointed flat raised)
    · intro _ after restoring
      exact ⟨Or.inr ⟨staging, names, pointed, restoring⟩,
        kept_restoring disk.root after staging [] kept restoring⟩
    · rintro after ⟨rest, restoring⟩
      exact kept_restoring disk.root after staging rest kept restoring
    · exact fun _ held => held

theorem recovered_generations (recovered : Recovered aggregator before after) :
    after.generations = before.generations := by
  rcases recovered with ⟨-, rfl⟩ | ⟨staging, names, -, restoring⟩
  · rfl
  · exact restoring.generations

theorem kept_free (root : Root) (kept : Kept aggregator root) :
    root.entries currentName ≠ some .directory ∧ root.entries ownerName ≠ some .directory := by
  constructor
  · rcases kept.pointer with missing | ⟨staging, names, pointed⟩
    · simp [missing]
    · simp [pointed.pointer]
  · rcases kept.owner with missing | ⟨marked, -⟩
    · simp [missing]
    · simp [marked]

theorem publish_outputs_ends (disk : Disk) (staging : Staging) (names : Names)
    (kept : Kept aggregator disk.root) (fresh : Fresh names disk.root) :
    Ends (publishOutputs aggregator staging names) disk
      (fun _ root => Published aggregator staging names root ∧ Kept aggregator root ∧
        ∃ between, Recovered aggregator disk.root between ∧ Admitted aggregator between staging)
      (Kept aggregator)
      (fun root => Kept aggregator root ∧ Recovered aggregator disk.root root ∧
        ¬ Admitted aggregator root staging) := by
  apply ends_bind _ _ fun _ between =>
    Recovered aggregator disk.root between ∧ Kept aggregator between
  · exact recover_kept disk kept _
  rintro _ ⟨between, left⟩ ⟨recovered, still⟩ _
  apply ends_bind _ _ fun _ root => root = between ∧ Admitted aggregator between staging
  · apply ends_mono (check_ownership_ends ⟨between, left⟩ staging (fun _ => False))
    · exact fun _ _ held => held
    · exact fun _ impossible => absurd impossible id
    · rintro _ ⟨rfl, refused⟩
      exact ⟨still, recovered, refused⟩
  rintro _ ⟨root, left⟩ ⟨same, admitted⟩ _
  obtain rfl : between = root := same.symm
  have free := kept_free _ still
  have fresh' : Fresh names between := by
    simpa only [Fresh, recovered_generations disk.root between recovered] using fresh
  apply ends_mono (publish_ends ⟨between, left⟩ (kept_stable staging names) still fresh'
    (still.plain staging.format) free.1 free.2 fun _ => False)
  · rintro _ root ⟨published, after⟩
    exact ⟨published, after, _, recovered, admitted⟩
  · exact fun _ held => held
  · exact fun _ impossible => absurd impossible id

end

section

variable {aggregator : Aggregator}

theorem lookup_member {α : Type} [DecidableEq α] (members : List (α × PlainJson)) (name : α)
    (value : PlainJson) (distinct : (members.map Prod.fst).Nodup)
    (member : (name, value) ∈ members) : members.lookup name = some value := by
  induction members with
  | nil => cases member
  | cons first rest ih =>
    obtain ⟨other, held⟩ := first
    rw [List.map_cons, List.nodup_cons] at distinct
    rcases List.mem_cons.mp member with same | later
    · cases same
      exact List.lookup_cons_self
    · have differ : name ≠ other := by
        rintro rfl
        exact distinct.1 (List.mem_map.mpr ⟨(name, value), later, rfl⟩)
      have apart : (name == other) = false := by simpa using differ
      rw [List.lookup_cons, apart]
      exact ih distinct.2 later

theorem prior_digest (staging : Staging) (name : String)
    (member : name ∈ outputNames staging.format) : (stagedHashes aggregator staging).lookup name =
      some (.str (aggregator.sha256 (.data (staging.bytes name)))) := by
  apply lookup_member
  · have names : ((stagedHashes aggregator staging).map Prod.fst).Perm
        ((stagedSources aggregator staging).map Prod.fst) := by
      simp [stagedHashes, stagedSources, Function.comp_def]
    exact names.nodup_iff.mpr (staged_nodup aggregator staging)
  · apply List.mem_map.mpr
    refine ⟨(name, .data (staging.bytes name)), List.mem_mergeSort.mpr ?_, rfl⟩
    exact List.mem_map.mpr ⟨name, member, rfl⟩

variable (before after : Root)

section

variable (staging : Staging)
  (restoring : Restoring aggregator (stagedSources aggregator staging) before [] after)
  (name : String) (member : name ∈ outputNames staging.format)

include restoring member

theorem restored_entry : after.entries name =
      if intact aggregator before name (aggregator.sha256 (.data (staging.bytes name)))
      then before.entries name else some (.file (.data (staging.bytes name))) := by
  have listed : (name, aggregator.sha256 (.data (staging.bytes name)),
      Content.data (staging.bytes name)) ∈ stagedSources aggregator staging :=
    (mem_stagedSources aggregator staging _).mpr
      ⟨(name, .data (staging.bytes name)), List.mem_map.mpr ⟨name, member, rfl⟩, rfl⟩
  exact restoring.handled _ listed List.not_mem_nil

theorem restored_intact : ∃ content, after.contentOf name = some content ∧
      aggregator.sha256 content = aggregator.sha256 (.data (staging.bytes name)) := by
  have made := restored_entry before after staging restoring name member
  split at made
  · rename_i sound
    obtain ⟨content, found, digest⟩ := (Option.any_eq_true _ _).mp sound
    refine ⟨content, ?_, of_decide_eq_true digest⟩
    rw [Root.contentOf, made]
    exact found
  · exact ⟨.data (staging.bytes name), by rw [Root.contentOf, made]; rfl, rfl⟩

end

theorem pointed_restored (prior : Staging) (names : Names)
    (pointed : Pointed aggregator before prior names)
    (restoring : Restoring aggregator (stagedSources aggregator prior) before [] after) :
    Pointed aggregator after prior names := by
  apply pointed_moved before after prior names pointed
  · rcases restoring_outputs before after prior [] restoring currentName with same | ⟨-, member, -⟩
    · exact same
    · exact absurd rfl (output_name_apart prior.format currentName member).1
  · intro directory _
    rw [restoring.generations]

/-- What the ownership check reads in a root whose pointer names a complete generation. -/
theorem ownership_pointed (root : Root) (prior staging : Staging) (names : Names)
    (pointed : Pointed aggregator root prior names) :
    ownershipProven aggregator root staging = some () ↔
      staging.outputs.all (accounted aggregator root (stagedHashes aggregator prior)) = true ∧
        (prior.format.text = staging.format.text ∨ ∀ file ∈ stagedHashes aggregator prior,
          file.1 ∈ outputNames staging.format ∨ root.exists_ file.1 = false) := by
  obtain ⟨current, manifest⟩ := pointed_reads root prior names pointed
  have known : prior.format.text = Format.historical.text ∨
      prior.format.text = Format.p0.text := by
    cases prior.format
    · exact Or.inl rfl
    · exact Or.inr rfl
  simp [ownershipProven, current, pointerDocument, field, textOf, resolve_manifest, manifest,
    manifestDocument, membersOf, known, Option.bind_eq_some_iff, Option.guard_eq_some']

theorem marked_owner (root : Root)
    (marked : root.entries ownerName = some (.file (.document ownerDocument))) :
    (root.contentOf ownerName).any isOwnerDocument = true := by
  simp [Root.contentOf, marked, Node.content, isOwnerDocument, ownerDocument, field]

theorem restored_admitted (prior staging : Staging) (names : Names)
    (pointed : Pointed aggregator before prior names)
    (restoring : Restoring aggregator (stagedSources aggregator prior) before [] after)
    (marked : after.entries ownerName = some (.file (.document ownerDocument)))
    (same : prior.format = staging.format) : Admitted aggregator after staging := by
  have still := pointed_restored before after prior names pointed restoring
  right
  refine ⟨marked_owner after marked, ?_, Or.inl ?_⟩
  · simp [(pointed_reads after prior names still).1, pointerDocument, membersOf]
  · apply (ownership_pointed after prior staging names still).mpr
    refine ⟨?_, Or.inl (by rw [same])⟩
    apply List.all_eq_true.mpr
    intro output member
    have listed : output.1 ∈ outputNames prior.format := same ▸ mem_outputs staging output member
    obtain ⟨content, found, digest⟩ := restored_intact before after prior restoring output.1 listed
    simp [accounted, found, digest, prior_digest prior output.1 listed]

end

section

variable (aggregator : Aggregator)

/-- The root that an aggregation leaves, however it ends. -/
def leftBy (staging : Staging) (names : Names) (disk : Disk) : Root :=
  match publishOutputs aggregator staging names disk with
  | .ok _ after => after.root
  | .error _ after => after.root

/-- The roots that aggregations lead to, each done, refused or cut after any number of steps. -/
inductive Reached : Root → Prop where
  | start (root : Root)
      (untouched : ∀ format, ∀ name ∈ outputNames format ++ [currentName, ownerName],
        root.entries name = none) : Reached root
  | run (root : Root) (staging : Staging) (names : Names) (left : Option Nat)
      (reached : Reached root) (fresh : Fresh names root) :
      Reached (leftBy aggregator staging names ⟨root, left⟩)

/-- The aggregation that nothing cuts succeeds and brings the root to what it computes. -/
def Recovers (root : Root) (staging : Staging) (names : Names) : Prop :=
  ∃ after, publishOutputs aggregator staging names ⟨root, none⟩ = .ok () ⟨after, none⟩ ∧
    Published aggregator staging names after

/-- The generation that the pointer names, if there is one, has the format. -/
def Unchanged (root : Root) (format : Format) : Prop :=
  ∀ prior names, Pointed aggregator root prior names → prior.format = format

variable {aggregator}

theorem reached_kept (root : Root) (reached : Reached aggregator root) : Kept aggregator root := by
  induction reached with
  | start root untouched =>
    constructor
    · intro format name member node stands
      rw [untouched format name (List.mem_append_left _ member)] at stands
      cases stands
    · exact Or.inl (untouched .p0 currentName (by simp))
    · exact Or.inl (untouched .p0 ownerName (by simp))
  | run root staging names left reached fresh kept =>
    have ends := publish_outputs_ends ⟨root, left⟩ staging names kept fresh
    unfold Ends Leaves at ends
    unfold leftBy
    cases result : publishOutputs aggregator staging names ⟨root, left⟩ with
    | ok value after =>
      rw [result] at ends
      exact ends.1.2.1
    | error stop after =>
      rw [result] at ends
      cases stop with
      | crash => exact ends.1
      | raised failure => exact ends.1.1

section

variable (before after : Root) (recovered : Recovered aggregator before after)

include recovered

theorem recovered_entries (name : String) : after.entries name = before.entries name ∨
      ∃ format content, name ∈ outputNames format ∧ after.entries name = some (.file content) := by
  rcases recovered with ⟨-, rfl⟩ | ⟨staging, names, -, restoring⟩
  · exact Or.inl rfl
  · rcases restoring_outputs before after staging [] restoring name with same | ⟨content, member, same⟩
    · exact Or.inl same
    · exact Or.inr ⟨staging.format, content, member, same⟩

theorem recovered_owner : after.entries ownerName = before.entries ownerName := by
  rcases recovered_entries before after recovered ownerName with same | ⟨format, content, member, -⟩
  · exact same
  · exact absurd rfl (output_name_apart format ownerName member).2.1

theorem recovered_vacant (format : Format) (vacant : Vacant after format) :
    Vacant before format := by
  intro name member
  rcases recovered_entries before after recovered name with same | ⟨-, content, -, same⟩
  · have missing := vacant name member
    unfold Root.exists_ at missing ⊢
    rwa [← same]
  · have missing := vacant name member
    simp [Root.exists_, same, Node.exists_] at missing

end

theorem recovers_started (root : Root) (kept : Kept aggregator root) (staging : Staging)
    (names : Names) (fresh : Fresh names root) (recovers : Recovers aggregator root staging names) :
    root.entries ownerName ≠ none ∨ Vacant root staging.format := by
  obtain ⟨after, success, -⟩ := recovers
  have ends := ends_calm _ _ _ (publish_outputs_ends ⟨root, none⟩ staging names kept fresh)
  rcases ends with ⟨_, last, -, -, -, between, recovered, admitted⟩ | ⟨failure, last, failed, -⟩
  · by_cases owned : root.entries ownerName = none
    · right
      have same := recovered_owner root between recovered
      rcases admitted with ⟨-, vacant⟩ | ⟨marked, -⟩
      · exact recovered_vacant root between recovered staging.format vacant
      · simp [Root.contentOf, same, owned] at marked
    · exact Or.inl owned
  · rw [success] at failed
    cases failed

theorem vacant_admitted (root after : Root) (kept : Kept aggregator root) (staging : Staging)
    (recovered : Recovered aggregator root after) (unowned : root.entries ownerName = none)
    (vacant : Vacant root staging.format) : Admitted aggregator after staging := by
  have free : root.entries currentName = none := by
    rcases kept.pointer with missing | ⟨prior, names, pointed⟩
    · exact missing
    · have missing := vacant currentName (by simp)
      simp [Root.exists_, pointed.pointer, Node.exists_] at missing
  rcases recovered with ⟨-, rfl⟩ | ⟨prior, names, pointed, -⟩
  · exact Or.inl ⟨by simp [Root.exists_, unowned], vacant⟩
  · rw [pointed.pointer] at free
    cases free

theorem started_recovers (root : Root) (kept : Kept aggregator root) (staging : Staging)
    (names : Names) (fresh : Fresh names root) (unchanged : Unchanged aggregator root staging.format)
    (started : root.entries ownerName ≠ none ∨ Vacant root staging.format) :
    Recovers aggregator root staging names := by
  have ends := ends_calm _ _ _ (publish_outputs_ends ⟨root, none⟩ staging names kept fresh)
  rcases ends with ⟨_, last, success, published, -⟩ | ⟨failure, last, -, -, recovered, refused⟩
  · exact ⟨last, success, published⟩
  · exfalso
    apply refused
    have same := recovered_owner root last recovered
    rcases kept.owner with unowned | ⟨marked, pointing⟩
    · rcases started with owned | vacant
      · exact absurd unowned owned
      · exact vacant_admitted root last kept staging recovered unowned vacant
    · rcases recovered with ⟨missing, -⟩ | ⟨prior, names', pointed, restoring⟩
      · exact absurd missing pointing
      · exact restored_admitted root last prior staging names' pointed restoring
          (same.trans marked) (unchanged prior names' pointed)

/-- An aggregation of the same format recovers a reached root exactly if the root has its owner
marker or none of the files that the aggregation publishes. -/
theorem recovers_iff (root : Root) (reached : Reached aggregator root) (staging : Staging)
    (names : Names) (fresh : Fresh names root)
    (unchanged : Unchanged aggregator root staging.format) :
    Recovers aggregator root staging names ↔
      root.entries ownerName ≠ none ∨ Vacant root staging.format := by
  have kept := reached_kept root reached
  constructor
  · exact recovers_started root kept staging names fresh
  · exact started_recovers root kept staging names fresh unchanged

end

def sampleAggregator : Aggregator where
  sha256
    | .data bytes => Library.Sha256.hexdigest bytes
    | .document _ => ""
  shown := id

def emptyRoot : Root := ⟨fun _ => none, fun _ => none⟩

def sampleStaging : Staging := ⟨.historical, fun _ => []⟩

def firstNames : Names := ⟨"0", "0", by simp⟩

def secondNames : Names := ⟨"1", "1", by simp⟩

theorem empty_reached : Reached sampleAggregator emptyRoot := .start emptyRoot fun _ _ _ => rfl

/-- What is left when a crash stops the first publication after a number of steps. -/
def crashedRoot (steps : Nat) : Root :=
  leftBy sampleAggregator sampleStaging firstNames ⟨emptyRoot, some steps⟩

theorem crashed_reached (steps : Nat) : Reached sampleAggregator (crashedRoot steps) :=
  .run emptyRoot sampleStaging firstNames (some steps) empty_reached ⟨rfl, rfl⟩

theorem crashed_unchanged (steps : Nat) (free : (crashedRoot steps).entries currentName = none) :
    Unchanged sampleAggregator (crashedRoot steps) sampleStaging.format := by
  intro prior names pointed
  rw [pointed.pointer] at free
  cases free

theorem renamed_entries : (crashedRoot 15).entries currentName = none ∧
    ((crashedRoot 15).generations firstNames.generation).isSome = true ∧
      ((crashedRoot 15).generations secondNames.pending).isNone = true ∧
        ((crashedRoot 15).generations secondNames.generation).isNone = true ∧
          Vacant (crashedRoot 15) sampleStaging.format := by
  unfold Vacant
  decide +kernel

/-- The crash comes between the rename of the generation and the first output. -/
theorem crashed_recovers : ((crashedRoot 15).generations firstNames.generation).isSome = true ∧
      Recovers sampleAggregator (crashedRoot 15) sampleStaging secondNames := by
  obtain ⟨current, written, pending, generation, vacant⟩ := renamed_entries
  exact ⟨written, (recovers_iff (crashedRoot 15) (crashed_reached 15) sampleStaging secondNames
    ⟨Option.isNone_iff_eq_none.mp pending, Option.isNone_iff_eq_none.mp generation⟩
    (crashed_unchanged 15 current)).mpr (Or.inr vacant)⟩

/-- The crash comes after the first output. -/
theorem stuck_entries : (crashedRoot 16).entries currentName = none ∧
    (crashedRoot 16).entries ownerName = none ∧
      (crashedRoot 16).exists_ "aggregate_target_profiles.jsonl" = true ∧
        ((crashedRoot 16).generations secondNames.pending).isNone = true ∧
          ((crashedRoot 16).generations secondNames.generation).isNone = true := by decide +kernel

theorem first_publication_stuck :
    ¬ ∀ root, Reached sampleAggregator root → ∀ staging names, Fresh names root →
      Unchanged sampleAggregator root staging.format →
        Recovers sampleAggregator root staging names := by
  intro recovers
  obtain ⟨current, owner, present, pending, generation⟩ := stuck_entries
  have fresh : Fresh secondNames (crashedRoot 16) :=
    ⟨Option.isNone_iff_eq_none.mp pending, Option.isNone_iff_eq_none.mp generation⟩
  have started := recovers_started _ (reached_kept _ (crashed_reached 16)) sampleStaging secondNames
    fresh (recovers _ (crashed_reached 16) sampleStaging secondNames fresh
      (crashed_unchanged 16 current))
  rcases started with owned | vacant
  · exact owned owner
  · rw [vacant "aggregate_target_profiles.jsonl" (by simp [sampleStaging, outputNames])] at present
    cases present

end DosWeb.Aggregate
