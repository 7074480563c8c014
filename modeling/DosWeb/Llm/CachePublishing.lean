import DosWeb.Llm.CacheSteps

/-!
How an entry is published: each step from the directory in which a put begins to the one in which
its entry stands.
-/

namespace DosWeb.Llm.Cache

open Library

theorem slice_head (text : String) (count : Nat) (first : Char)
    (held : text.toList.head? = some first) (positive : 0 < count) :
    first ∈ (slice text 0 count).toList := by
  cases characters : text.toList with
  | nil => simp [characters] at held
  | cons head tail =>
    obtain rfl : head = first := by simpa [characters] using held
    obtain ⟨more, rfl⟩ := Nat.exists_eq_succ_of_ne_zero positive.ne'
    simp [slice, characters]

theorem hidden_not_entry (name : String) (hidden : name.toList.head? = some '.') :
    isEntry name = false := by
  cases entry : isEntry name with
  | false => rfl
  | true =>
    simp only [isEntry, Bool.and_eq_true, Bool.or_eq_true] at entry
    rcases entry.2 with plain | auth
    · have inside := slice_head name 64 '.' hidden (by decide)
      simp only [safeKey, Bool.and_eq_true, List.all_eq_true] at plain
      exact absurd (plain.2.2 '.' inside) (by decide)
    · have leads := auth.1.2
      obtain ⟨rest, same⟩ := List.isPrefixOf_iff_prefix.mp leads
      have first : ("auth-".toList ++ rest).head? = some 'a' := rfl
      rw [← same, first] at hidden
      exact absurd hidden (by decide)

theorem temporary_not_entry (key : String) (number : Nat) :
    isEntry (temporaryName key number) = false := by
  apply hidden_not_entry
  simp [temporaryName, String.toList_append]

section

variable (start : Directory) (destination : String) (payload : List UInt8)

structure Fresh (name : String) : Prop where
  absent : name ∉ start
  hidden : isEntry name = false

/-- What one step of a put makes of a directory, from the one in which the put began. -/
inductive Advance : Directory → Directory → Prop where
  | create (name : String) (fresh : Fresh start name) :
      Advance start (start.insert name ⟨[], true⟩)
  | write (name : String) (part more : List UInt8) (fresh : Fresh start name)
      (taken : more <+: payload) :
      Advance (start.insert name ⟨part, true⟩) (start.insert name ⟨more, true⟩)
  | link (name : String) (fresh : Fresh start name) (absent : destination ∉ start) :
      Advance (start.insert name ⟨payload, true⟩)
        ((start.insert name ⟨payload, true⟩).insert destination ⟨payload, true⟩)
  | drop (name : String) (part : List UInt8) (fresh : Fresh start name) (taken : part <+: payload) :
      Advance (start.insert name ⟨part, true⟩) ((start.insert name ⟨part, true⟩).erase name)
  | retire (name : String) (fresh : Fresh start name) (absent : destination ∉ start) :
      Advance ((start.insert name ⟨payload, true⟩).insert destination ⟨payload, true⟩)
        (((start.insert name ⟨payload, true⟩).insert destination ⟨payload, true⟩).erase name)

/-- A property of histories that the steps of a put keep. -/
def Kept (holds : History → Prop) : Prop :=
  ∀ history next, holds history → Advance start destination payload history.directory next →
    holds (history.move next)

end

variable {start : Directory} {destination : String} {payload : List UInt8}
  {holds : History → Prop} (kept : Kept start destination payload holds) {history : History}

/-- The put raises nothing about the room in the cache and keeps the property. -/
def Undisturbed (holds : History → Prop) (stop : Stop) (history : History) : Prop :=
  Quiet stop ∧ holds history

include kept in
theorem ends_create (key : String) (held : holds history) (begun : history.directory = start) :
    Ends (createExclusive key) history (fun name after => Fresh start name ∧ holds after ∧
        after.directory = start.insert name ⟨[], true⟩)
      (fun stop after => Undisturbed holds stop after ∧ (stop = .os .exists_ → after = history)) := by
  apply ends_attempt
  · exact ⟨⟨nofun, held⟩, nofun⟩
  · exact ⟨⟨nofun, held⟩, nofun⟩
  · intro spare error _
    exact ⟨⟨nofun, held⟩, fun _ => rfl⟩
  · intro spare name next made
    rw [begun] at made
    split at made
    · cases made
    · rename_i absent
      cases made
      have fresh : Fresh start (temporaryName key spare) := ⟨absent, temporary_not_entry key spare⟩
      have moved : holds (history.move (start.insert (temporaryName key spare) ⟨[], true⟩)) := by
        apply kept history _ held
        rw [begun]
        exact Advance.create _ fresh
      exact ⟨⟨fresh, moved, rfl⟩, ⟨nofun, moved⟩, nofun⟩

include kept in
theorem ends_temporary (key : String) (tries : Nat) (held : holds history)
    (begun : history.directory = start) : Ends (createPrivateTemporary key tries) history
      (fun name after => Fresh start name ∧ holds after ∧
        after.directory = start.insert name ⟨[], true⟩)
      (Undisturbed holds) := by
  induction tries with
  | zero => exact ends_throw _ _ ⟨nofun, held⟩
  | succ tries ih =>
    apply ends_onExists
    apply ends_bind (createExclusive key) _ fun name after =>
      Fresh start name ∧ holds after ∧ after.directory = start.insert name ⟨[], true⟩
    · apply ends_mono (ends_create kept key held begun)
      · exact fun _ _ made => made
      · intro stop after left
        obtain ⟨undisturbed, unmoved⟩ := left
        refine ⟨fun again => ?_, fun _ => undisturbed⟩
        rw [unmoved again]
        exact ih
    · intro name after made
      apply ends_bind sync _ fun _ last => last = after
      · apply ends_mono looks_sync
        · exact fun _ _ synced => synced.1
        · intro stop last stopped
          obtain ⟨rfl, plain⟩ := stopped
          refine ⟨fun again => ?_, fun _ => ⟨plain_quiet stop plain, made.2.1⟩⟩
          rcases plain with rfl | rfl <;> cases again
      · intro _ last same
        subst same
        exact ends_pure _ _ made

section

variable (name : String) (fresh : Fresh start name) (part data : List UInt8)
  (whole : part ++ data = payload) (held : holds history)
  (stands : history.directory = start.insert name ⟨part, true⟩)

include fresh whole held stands

include kept in
theorem ends_one_write : Ends (write name data) history (fun written after => holds after ∧
        after.directory = start.insert name ⟨part ++ data.take written, true⟩)
      (fun stop after => Undisturbed holds stop after ∧
        ∃ taken, taken <+: payload ∧ after.directory = start.insert name ⟨taken, true⟩) := by
  have begun : part <+: payload := ⟨data, whole⟩
  apply ends_attempt
  · exact ⟨⟨nofun, held⟩, part, begun, stands⟩
  · exact ⟨⟨nofun, held⟩, part, begun, stands⟩
  · intro _ error _
    exact ⟨⟨nofun, held⟩, part, begun, stands⟩
  · intro spare written next made
    rw [stands, AList.lookup_insert] at made
    cases made
    rw [AList.insert_insert]
    have taken : part ++ data.take (data.length - spare) <+: payload := by
      rw [← whole]
      exact (List.prefix_append_right_inj part).mpr (List.take_prefix _ _)
    have moved : holds (history.move
        (start.insert name ⟨part ++ data.take (data.length - spare), true⟩)) := by
      apply kept history _ held
      rw [stands]
      exact Advance.write name _ _ fresh taken
    exact ⟨⟨moved, rfl⟩, ⟨nofun, moved⟩, _, taken, rfl⟩

include kept in
/-- Writing ends with the whole payload in the temporary file, or stops with a part of it there. -/
theorem ends_write : Ends (writeAll name data) history
      (fun _ after => holds after ∧ after.directory = start.insert name ⟨payload, true⟩)
      (fun stop after => Undisturbed holds stop after ∧
        ∃ taken, taken <+: payload ∧ after.directory = start.insert name ⟨taken, true⟩) := by
  induction length : data.length using Nat.strong_induction_on generalizing data history part with
  | _ size ih =>
    rw [writeAll]
    by_cases more : 0 < data.length
    · rw [dif_pos more]
      apply ends_bind (write name data) _ _ _
        (ends_one_write kept name fresh part data whole held stands)
      intro written after left
      obtain ⟨heldAfter, standsAfter⟩ := left
      by_cases advanced : 0 < written
      · rw [dif_pos advanced]
        have shorter : (data.drop written).length < size := by
          rw [List.length_drop, ← length]
          omega
        apply ih _ shorter (part ++ data.take written) (data.drop written) _ heldAfter
          standsAfter rfl
        rw [List.append_assoc, List.take_append_drop, whole]
      · rw [dif_neg advanced]
        refine ends_throw _ _ ⟨⟨nofun, heldAfter⟩, _, ?_, standsAfter⟩
        rw [← whole]
        exact (List.prefix_append_right_inj part).mpr (List.take_prefix _ _)
    · rw [dif_neg more]
      have empty : data = [] := List.eq_nil_of_length_eq_zero (by omega)
      rw [empty, List.append_nil] at whole
      rw [whole] at stands
      exact ends_pure _ _ ⟨held, stands⟩

end

/-- Where a put stands between the making of its temporary file and its removal. -/
def Placed (start : Directory) (destination : String) (payload : List UInt8) (name : String)
    (directory : Directory) : Prop :=
  (∃ taken, taken <+: payload ∧ directory = start.insert name ⟨taken, true⟩) ∨ destination ∉ start ∧
      directory = (start.insert name ⟨payload, true⟩).insert destination ⟨payload, true⟩

section

variable (name : String) (fresh : Fresh start name)

include fresh

include kept in
theorem ends_link (entry : isEntry destination = true) (held : holds history)
    (stands : history.directory = start.insert name ⟨payload, true⟩) :
    Ends (link name destination) history
      (fun _ after => holds after ∧ destination ∉ start ∧ after.directory =
        (start.insert name ⟨payload, true⟩).insert destination ⟨payload, true⟩)
      (fun stop after => Undisturbed holds stop after ∧
        Placed start destination payload name after.directory) := by
  have placed : Placed start destination payload name history.directory :=
    Or.inl ⟨payload, List.prefix_refl _, stands⟩
  have apart : destination ≠ name := by
    intro same
    rw [same, fresh.hidden] at entry
    cases entry
  apply ends_attempt
  · exact ⟨⟨nofun, held⟩, placed⟩
  · exact ⟨⟨nofun, held⟩, placed⟩
  · intro _ error _
    exact ⟨⟨nofun, held⟩, placed⟩
  · intro spare nothing next made
    rw [stands, AList.lookup_insert, AList.lookup_insert_ne apart] at made
    cases found : start.lookup destination with
    | some file =>
      rw [found] at made
      cases made
    | none =>
      rw [found] at made
      cases made
      have absent := AList.lookup_eq_none.mp found
      have moved : holds (history.move
          ((start.insert name ⟨payload, true⟩).insert destination ⟨payload, true⟩)) := by
        apply kept history _ held
        rw [stands]
        exact Advance.link name fresh absent
      exact ⟨⟨moved, absent, rfl⟩, ⟨nofun, moved⟩, Or.inr ⟨absent, rfl⟩⟩

include kept in
theorem ends_unlink (held : holds history)
    (placed : Placed start destination payload name history.directory) : Ends (unlink name) history
      (fun _ after => holds after ∧ after.directory = history.directory.erase name)
      (Undisturbed holds) := by
  apply ends_attempt
  · exact ⟨nofun, held⟩
  · exact ⟨nofun, held⟩
  · intro _ error _
    exact ⟨nofun, held⟩
  · intro spare nothing next made
    split at made
    · cases made
      have moved : holds (history.move (history.directory.erase name)) := by
        apply kept history _ held
        rcases placed with ⟨taken, part, stands⟩ | ⟨absent, stands⟩
        · rw [stands]
          exact Advance.drop name taken fresh part
        · rw [stands]
          exact Advance.retire name fresh absent
      exact ⟨⟨moved, rfl⟩, nofun, moved⟩
    · cases made

include kept in
theorem ends_retiring (body : Caching Unit) (done : Unit → History → Prop)
    (ends : Ends body history done fun stop after => Undisturbed holds stop after ∧
      Placed start destination payload name after.directory) :
    Ends (retiring name body) history done (Undisturbed holds) := by
  intro outcomes
  have left := ends outcomes
  unfold Steps.Leaves at left
  unfold Steps.Leaves retiring
  cases result : body ⟨history, outcomes⟩ with
  | ok value after => simpa [result] using left
  | error stop after =>
    rw [result] at left
    obtain ⟨undisturbed, placed⟩ := left
    have removed := ends_unlink kept name fresh undisturbed.2 placed after.outcomes
    unfold Steps.Leaves at removed
    cases stop with
    | crash => exact undisturbed
    | os error =>
      cases last : unlink name after with
      | ok value final =>
        have removed : holds final.history := by
          rw [last] at removed
          exact removed.1
        simp only [last]
        exact ⟨nofun, removed⟩
      | error again final =>
        rw [last] at removed
        cases again <;> simp only [last] <;> exact ⟨nofun, removed.2⟩
    | raised raised =>
      cases last : unlink name after with
      | ok value final =>
        rw [last] at removed
        simp only [last]
        exact ⟨undisturbed.1, removed.1⟩
      | error again final =>
        rw [last] at removed
        cases again <;> simp only [last]
        · exact ⟨nofun, removed.2⟩
        · exact ⟨undisturbed.1, removed.2⟩
        · exact ⟨undisturbed.1, removed.2⟩

end

include kept in
theorem ends_publish (key : String) (recheck : Caching Unit) (entry : isEntry destination = true)
    (rechecks : ∀ between, Looks recheck between (fun _ => True) Quiet) (held : holds history)
    (begun : history.directory = start) :
    Ends (publish key destination payload recheck) history
      (fun _ after => holds after ∧ after.directory.lookup destination = some ⟨payload, true⟩)
      (Undisturbed holds) := by
  apply ends_bind _ _ _ _ (ends_temporary kept key 16 held begun)
  intro name after made
  obtain ⟨fresh, heldAfter, empty⟩ := made
  have apart : destination ≠ name := by
    intro same
    rw [same, fresh.hidden] at entry
    cases entry
  apply ends_bind _ _ fun _ linked => holds linked ∧ destination ∉ start ∧ linked.directory =
    (start.insert name ⟨payload, true⟩).insert destination ⟨payload, true⟩
  · apply ends_retiring kept name fresh
    apply ends_bind (writeAll name payload) _ fun _ written =>
      holds written ∧ written.directory = start.insert name ⟨payload, true⟩
    · apply ends_mono (ends_write kept name fresh [] payload rfl heldAfter empty)
      · exact fun _ _ written => written
      · exact fun _ _ stopped => ⟨stopped.1, Or.inl stopped.2⟩
    · intro _ written whole
      obtain ⟨heldWritten, stands⟩ := whole
      have placed : Placed start destination payload name written.directory :=
        Or.inl ⟨payload, List.prefix_refl _, stands⟩
      apply ends_bind sync _ fun _ last => last = written
      · apply ends_mono looks_sync
        · exact fun _ _ synced => synced.1
        · intro stop last stopped
          obtain ⟨rfl, plain⟩ := stopped
          exact ⟨⟨plain_quiet stop plain, heldWritten⟩, placed⟩
      · intro _ synced same
        subst same
        apply ends_bind recheck _ fun _ last => last = synced
        · apply ends_mono (rechecks synced)
          · exact fun _ _ checked => checked.1
          · intro stop last stopped
            obtain ⟨rfl, quiet⟩ := stopped
            exact ⟨⟨quiet, heldWritten⟩, placed⟩
        · intro _ checked same
          subst same
          exact ends_link kept name fresh entry heldWritten stands
  · intro _ linked placed
    obtain ⟨heldLinked, absent, stands⟩ := placed
    apply ends_bind (unlink name) _ _ _
      (ends_unlink kept name fresh heldLinked (Or.inr ⟨absent, stands⟩))
    intro _ removed left
    obtain ⟨heldRemoved, erased⟩ := left
    apply ends_mono looks_sync
    · intro _ last synced
      obtain ⟨rfl, _⟩ := synced
      refine ⟨heldRemoved, ?_⟩
      rw [erased, stands, AList.lookup_erase_ne apart, AList.lookup_insert]
    · intro stop last stopped
      obtain ⟨rfl, plain⟩ := stopped
      exact ⟨plain_quiet stop plain, heldRemoved⟩

end DosWeb.Llm.Cache
