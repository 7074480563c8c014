import DosWeb.Aggregate.Recovery

/-!
A published root whose outputs someone else has changed, and what the next aggregation does to the
changed files.
-/

namespace DosWeb.Aggregate

variable (aggregator : Aggregator)

/-- Someone else has edited, replaced, added or removed files with the names of outputs. -/
structure Tampered (before after : Root) (prior staging : Staging) : Prop where
  generations : after.generations = before.generations
  own : ∀ name ∈ [currentName, ownerName], after.entries name = before.entries name
  files : ∀ name ∈ outputNames prior.format ++ outputNames staging.format,
    after.entries name ≠ some .directory

/-- An output that is there and is not what was there. -/
def Modified (before after : Root) (prior staging : Staging) (name : String) : Prop :=
  name ∈ outputNames prior.format ++ outputNames staging.format ∧
    after.entries name ≠ none ∧ after.entries name ≠ before.entries name

/-- The file holds what an aggregation has computed for its name. -/
def Holds (root : Root) (staging : Staging) (name : String) : Prop :=
  name ∈ outputNames staging.format ∧ root.entries name = some (.file (.data (staging.bytes name)))

/-- Every modified file holds prior or staged content, or the aggregation raises and leaves every
modified file as it is. -/
def Spares (before after : Root) (prior staging : Staging) (names : Names) : Prop :=
  (∀ name, Modified before after prior staging name →
    Holds after prior name ∨ Holds after staging name) ∨
    ∃ failure last, publishOutputs aggregator staging names ⟨after, none⟩ =
        .error (.raised failure) ⟨last, none⟩ ∧
      ∀ name, Modified before after prior staging name → last.entries name = after.entries name

/-- Every modified file holds the staged content, or the format changes and the modified outputs of
the prior generation have the digests of their old contents. -/
def Spared (before after : Root) (prior staging : Staging) : Prop :=
  (∀ name, Modified before after prior staging name → Holds after staging name) ∨
    prior.format ≠ staging.format ∧
      ∀ name ∈ outputNames prior.format, Modified before after prior staging name →
        intact aggregator after name (aggregator.sha256 (.data (prior.bytes name))) = true

variable {aggregator} {before after : Root} {prior staging : Staging} {names names' : Names}

theorem format_text_injective (left right : Format) (same : left.text = right.text) :
    left = right := by
  cases left <;> cases right <;> first | rfl | simp [Format.text] at same

theorem formats_overlap (left right : Format) (differ : left ≠ right) :
    (∃ name ∈ outputNames left, name ∉ outputNames right) ∧
      ∃ name ∈ outputNames left, name ∈ outputNames right := by
  constructor
  · cases left <;> cases right
    · exact absurd rfl differ
    · exact ⟨"aggregate_sinks.jsonl", by simp [outputNames]⟩
    · exact ⟨"aggregate_entries.jsonl", by simp [outputNames]⟩
    · exact absurd rfl differ
  · refine ⟨"aggregate_status.jsonl", ?_⟩
    cases left <;> cases right <;> simp [outputNames]

section

variable (published : Published aggregator prior names before)

include published

theorem published_holds (name : String) (member : name ∈ outputNames prior.format) :
    Holds before prior name := by
  refine ⟨member, ?_⟩
  exact published.outputs (name, .data (prior.bytes name)) (List.mem_map.mpr ⟨name, member, rfl⟩)

theorem modified_differs (name : String) (modified : Modified before after prior staging name) :
    ¬ Holds after prior name := by
  rintro ⟨member, holds⟩
  apply modified.2.2
  rw [holds, (published_holds published name member).2]

theorem tampered_pointed (tampered : Tampered before after prior staging) :
    Pointed aggregator after prior names := by
  apply pointed_moved before after prior names published.toPointed
  · exact tampered.own currentName (by simp)
  · intro directory _
    rw [tampered.generations]

theorem tampered_owner (tampered : Tampered before after prior staging) :
    after.entries ownerName = some (.file (.document ownerDocument)) := by
  rw [tampered.own ownerName (by simp), published.owner]

end

/-- The root after the recovery that runs before the check. -/
def Restored (aggregator : Aggregator) (prior : Staging) (after between : Root) : Prop :=
  Restoring aggregator (stagedSources aggregator prior) after [] between

section

variable (between : Root) (restored : Restored aggregator prior after between)

include restored

theorem restored_owner : between.entries ownerName = after.entries ownerName := by
  rcases restoring_outputs after between prior [] restored ownerName with same | ⟨-, member, -⟩
  · exact same
  · exact absurd rfl (output_name_apart prior.format ownerName member).2.1

theorem restored_regular (name : String) (member : name ∈ outputNames prior.format) :
    ∃ content, between.entries name = some (.file content) := by
  obtain ⟨content, found, -⟩ := restored_intact after between prior restored name member
  unfold Root.contentOf at found
  cases stands : between.entries name with
  | none => simp [stands] at found
  | some node =>
    cases node with
    | file content => exact ⟨content, rfl⟩
    | link _ | directory => simp [stands, Node.content] at found

theorem restored_exists (name : String) (member : name ∈ outputNames prior.format) :
    between.exists_ name = true := by
  obtain ⟨content, stands⟩ := restored_regular between restored name member
  simp [Root.exists_, stands, Node.exists_]

end

/-- A change of the format is refused, as the recovery has just brought back the prior outputs. -/
theorem switch_refused (between : Root) (pointed : Pointed aggregator after prior names)
    (marked : after.entries ownerName = some (.file (.document ownerDocument)))
    (restored : Restored aggregator prior after between)
    (differ : prior.format ≠ staging.format) : ¬ Admitted aggregator between staging := by
  obtain ⟨⟨stale, own, foreign⟩, shared, inside, inside'⟩ :=
    formats_overlap prior.format staging.format differ
  rintro (⟨unowned, -⟩ | ⟨-, -, proven | vacant⟩)
  · have owned := marked_exists between (marked_owner between
      ((restored_owner between restored).trans marked))
    rw [unowned] at owned
    cases owned
  · have still := pointed_restored after between prior names pointed restored
    obtain ⟨-, same | gone⟩ := (ownership_pointed between prior staging names still).mp proven
    · exact differ (format_text_injective _ _ same)
    · have listed : stale ∈ (stagedHashes aggregator prior).map Prod.fst := by
        have sources := (staged_names aggregator prior).mem_iff.mpr own
        simpa [stagedHashes, stagedSources, Function.comp_def] using sources
      obtain ⟨file, member, rfl⟩ := List.mem_map.mp listed
      rcases gone file member with kept | missing
      · exact foreign kept
      · rw [restored_exists between restored file.1 own] at missing
        cases missing
  · have present : (outputNames staging.format).any between.exists_ = true :=
      List.any_eq_true.mpr ⟨shared, inside', restored_exists between restored shared inside⟩
    rw [vacant] at present
    cases present

section

variable (published : Published aggregator prior names before)
  (tampered : Tampered before after prior staging) (fresh : Fresh names' after)

include published tampered fresh

/-- An aggregation of the same format publishes; any other one raises after the recovery. -/
theorem tampered_ends : Ends (publishOutputs aggregator staging names') ⟨after, none⟩
      (fun _ _ => prior.format = staging.format) (fun _ => True)
      (fun root => prior.format ≠ staging.format ∧ Restored aggregator prior after root) := by
  have pointed := tampered_pointed published tampered
  have marked := tampered_owner published tampered
  apply ends_bind _ _ fun _ between => Restored aggregator prior after between
  · apply ends_mono (recover_ends ⟨after, none⟩ prior names pointed (fun name member =>
      tampered.files name (List.mem_append_left _ member)) fun _ => False)
    · exact fun _ _ held => held
    · exact fun _ _ => trivial
    · exact fun _ impossible => absurd impossible id
  rintro _ ⟨between, left⟩ restored _
  apply ends_bind _ _ fun _ root => root = between ∧ prior.format = staging.format
  · apply ends_mono (check_ownership_ends ⟨between, left⟩ staging fun _ => False)
    · rintro _ root ⟨rfl, admitted⟩
      refine ⟨rfl, ?_⟩
      by_contra differ
      exact switch_refused _ pointed marked restored differ admitted
    · exact fun _ _ => trivial
    · rintro root ⟨rfl, refused⟩
      refine ⟨?_, restored⟩
      intro same
      exact refused (restored_admitted after _ prior staging names pointed restored
        ((restored_owner _ restored).trans marked) same)
  rintro _ ⟨root, left⟩ ⟨rfl, same⟩ _
  have still := pointed_restored after root prior names pointed restored
  have owned := (restored_owner root restored).trans marked
  have stable : Stable aggregator staging names' fun _ => True :=
    ⟨fun _ _ _ _ _ => trivial, fun _ _ _ _ => trivial, fun _ _ _ => trivial, fun _ _ _ => trivial⟩
  have kept : root.generations = after.generations := restored.generations
  have fresh' : Fresh names' root := by
    rw [Fresh, kept]
    exact fresh
  apply ends_mono (publish_ends ⟨root, left⟩ stable trivial fresh' (by
    intro name member node stands
    rw [← same] at member
    obtain ⟨content, regular⟩ := restored_regular root restored name member
    exact ⟨content, Option.some.inj (stands.symm.trans regular)⟩)
    (by simp [still.pointer]) (by simp [owned]) fun _ => False)
  · exact fun _ _ _ => same
  · exact fun _ _ => trivial
  · exact fun _ impossible => absurd impossible id

theorem spares_spared (spares : Spares aggregator before after prior staging names') :
    Spared aggregator before after prior staging := by
  rcases spares with held | ⟨failure, last, failed, unchanged⟩
  · left
    intro name modified
    rcases held name modified with old | new
    · exact absurd old (modified_differs published name modified)
    · exact new
  · rcases ends_calm _ _ _ (tampered_ends published tampered fresh) with
      ⟨_, other, success, -⟩ | ⟨failure', other, failed', differ, restored⟩
    · rw [success] at failed
      cases failed
    · rw [failed'] at failed
      cases failed
      refine Or.inr ⟨differ, ?_⟩
      intro name member modified
      have entry := restored_entry after _ prior restored name member
      rw [unchanged name modified] at entry
      by_contra broken
      rw [if_neg broken] at entry
      exact modified_differs published name modified ⟨member, entry⟩

theorem spared_spares (spared : Spared aggregator before after prior staging) :
    Spares aggregator before after prior staging names' := by
  rcases spared with held | ⟨differ, sound⟩
  · exact Or.inl fun name modified => Or.inr (held name modified)
  · rcases ends_calm _ _ _ (tampered_ends published tampered fresh) with
      ⟨_, last, -, same⟩ | ⟨failure, last, failed, -, restored⟩
    · exact absurd same differ
    · refine Or.inr ⟨failure, last, failed, ?_⟩
      intro name modified
      by_cases member : name ∈ outputNames prior.format
      · have entry := restored_entry after last prior restored name member
        rwa [if_pos (sound name member modified)] at entry
      · apply restored.other
        exact fun listed => member ((staged_names aggregator prior).mem_iff.mp listed)

end

/-- The next aggregation spares what someone else has modified exactly if all of it is what this
aggregation writes anyway, or the format changes and the recovery finds nothing to bring back. -/
theorem spares_iff (published : Published aggregator prior names before)
    (tampered : Tampered before after prior staging) (fresh : Fresh names' after) :
    Spares aggregator before after prior staging names' ↔
      Spared aggregator before after prior staging := by
  constructor
  · exact spares_spared published tampered fresh
  · exact spared_spares published tampered fresh

/-- The first aggregation of the sample batch is done. -/
@[irreducible] def publishedRoot : Root := leftBy sampleAggregator sampleStaging firstNames ⟨emptyRoot, none⟩

def editedName : String := "aggregate_status.jsonl"

def editedRoot : Root := publishedRoot.write editedName (.data [1])

def editedStaging : Staging := ⟨.historical, fun _ => [1]⟩

theorem published_root : Published sampleAggregator sampleStaging firstNames publishedRoot := by
  have kept := reached_kept emptyRoot empty_reached
  obtain ⟨after, success, published⟩ := started_recovers emptyRoot kept sampleStaging firstNames
    ⟨rfl, rfl⟩ (by
      intro prior names pointed
      cases pointed.pointer) (Or.inr fun _ _ => rfl)
  unfold publishedRoot leftBy
  rw [success]
  exact published

theorem published_fresh : Fresh secondNames publishedRoot := by
  have absent : (publishedRoot.generations secondNames.pending).isNone = true ∧
      (publishedRoot.generations secondNames.generation).isNone = true := by decide +kernel
  exact ⟨Option.isNone_iff_eq_none.mp absent.1, Option.isNone_iff_eq_none.mp absent.2⟩

theorem edited_listed : editedName ∈ outputNames .historical := by
  simp [editedName, outputNames]

theorem edited_tampered (bytes : String → List UInt8) :
    Tampered publishedRoot editedRoot sampleStaging ⟨.historical, bytes⟩ where
  generations := rfl
  own := by
    intro name member
    apply Root.write_other
    rintro rfl
    have apart := output_name_apart .historical editedName edited_listed
    simp [apart.1, apart.2.1] at member
  files := by
    intro name member
    by_cases same : name = editedName
    · subst same
      simp [editedRoot]
    · have listed : name ∈ outputNames .historical := by simpa [sampleStaging] using member
      have holds := (published_holds published_root name listed).2
      rw [editedRoot, Root.write_other _ _ _ _ same, holds]
      simp

theorem edited_modified (staging : Staging) :
    Modified publishedRoot editedRoot sampleStaging staging editedName := by
  refine ⟨List.mem_append_left _ edited_listed, ?_, ?_⟩
  · simp [editedRoot]
  · rw [editedRoot, Root.write_self, (published_holds published_root editedName edited_listed).2]
    simp [sampleStaging]

/-- An edit that the next aggregation makes as well is spared. -/
theorem edited_spares : Spares sampleAggregator publishedRoot editedRoot sampleStaging
    editedStaging secondNames :=
  (spares_iff published_root (edited_tampered _) published_fresh).mpr (Or.inl (by
    intro name modified
    by_cases same : name = editedName
    · subst same
      exact ⟨edited_listed, Root.write_self _ _ _⟩
    · exact absurd (Root.write_other _ _ _ _ same) modified.2.2))

/-- Any other edit is undone, and the aggregation succeeds. -/
theorem edited_destroyed : ¬ ∀ before after prior staging names names',
      Published sampleAggregator prior names before → Tampered before after prior staging →
        Fresh names' after → Spares sampleAggregator before after prior staging names' := by
  intro spares
  have tampered : Tampered publishedRoot editedRoot sampleStaging sampleStaging := edited_tampered _
  have kept := spares_spared published_root tampered published_fresh
    (spares publishedRoot editedRoot sampleStaging sampleStaging firstNames secondNames
      published_root tampered published_fresh)
  rcases kept with held | ⟨differ, -⟩
  · have new := (held editedName (edited_modified sampleStaging)).2
    rw [editedRoot, Root.write_self] at new
    simp [sampleStaging] at new
  · exact differ rfl

end DosWeb.Aggregate
