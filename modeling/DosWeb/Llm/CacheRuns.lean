import DosWeb.Llm.CacheCapacity

/-!
Runs of calls on the contract cache: the number of its entries, their bytes and their contents,
whatever fails and whichever process dies.
-/

namespace DosWeb.Llm.Cache

open Library Library.JsonValue Library.JsonText Library.JsonRecord

theorem slice_middle (lead key rest : String) (length : key.length = 64) (first : Nat)
    (size : lead.length = first) : slice (lead ++ key ++ rest) first 64 = key := by
  apply String.toList_injective
  rw [slice, String.toList_ofList, String.toList_append, String.toList_append, List.append_assoc,
    List.drop_left' (by rw [String.length_toList, size]),
    List.take_left' (by rw [String.length_toList, length])]

theorem ends_append (lead tail : String) : Text.endsWith (lead ++ tail) tail = true := by
  rw [Text.endsWith, String.toList_append, List.isSuffixOf_iff_suffix]
  exact List.suffix_append _ _

theorem growth_entry_name (key : String) (safe : safeKey key = true) :
    isEntry (key ++ ".json") = true := by
  have length : key.length = 64 := of_decide_eq_true (Bool.and_eq_true_iff.mp safe).1
  have own : slice (key ++ ".json") 0 64 = key := by
    have same := slice_middle "" key ".json" length 0 rfl
    rwa [String.empty_append] at same
  have size : (key ++ ".json").length = 69 := by
    rw [String.length_append, length]
    rfl
  simp only [isEntry, ends_append, own, safe, size, decide_true, Bool.and_self, Bool.true_or]

theorem auth_entry_name (key : String) (safe : safeKey key = true) :
    isEntry ("auth-" ++ key ++ ".json") = true := by
  have length : key.length = 64 := of_decide_eq_true (Bool.and_eq_true_iff.mp safe).1
  have own := slice_middle "auth-" key ".json" length 5 rfl
  have size : ("auth-" ++ key ++ ".json").length = 74 := by
    rw [String.length_append, String.length_append, length]
    rfl
  have leads : Text.startsWith ("auth-" ++ key ++ ".json") "auth-" = true := by
    rw [String.append_assoc]
    exact Text.startsWith_append _ _
  simp only [isEntry, ends_append, own, safe, size, leads, decide_true, Bool.and_self, Bool.or_true]

/-- What holds of every directory that stands in a run: no more entries than allowed, no more
bytes than allowed or than some put takes while it writes, and entries as they were published. -/
structure Sound (history : History) : Prop where
  entries : ∀ directory ∈ history.stood, entryCount directory ≤ maxCacheEntries
  bytes : ∀ directory ∈ history.stood, totalBytes directory ≤ maxCacheTotalBytes ∨
    ∃ put ∈ history.began, totalBytes directory ≤ totalBytes put.1 + 2 * put.2
  fixed : history.stood.Pairwise fun later earlier => Keeps earlier later
  admitted : exhaustedError ∈ history.failures →
    ∃ put ∈ history.began, maxCacheTotalBytes < totalBytes put.1 + put.2

/-- A reservation has room for its entry, or the entry stands. -/
def Room (reservation : String) (directory : Directory) : Prop :=
  reservation ++ ".json" ∈ directory ∨ entryCount directory < maxCacheEntries

section

variable {history : History} (sound : Sound history)

include sound in
theorem sound_move (next : Directory) (entries : entryCount next ≤ maxCacheEntries)
    (bytes : totalBytes next ≤ maxCacheTotalBytes ∨
      ∃ put ∈ history.began, totalBytes next ≤ totalBytes put.1 + 2 * put.2)
    (keeps : Keeps history.directory next) : Sound (history.move next) := by
  refine ⟨?_, ?_, ?_, sound.admitted⟩
  · intro directory inside
    rcases List.mem_cons.mp inside with rfl | before
    · exact entries
    · exact sound.entries directory before
  · intro directory inside
    rcases List.mem_cons.mp inside with rfl | before
    · exact bytes
    · exact sound.bytes directory before
  · apply List.pairwise_cons.mpr
    refine ⟨?_, sound.fixed⟩
    intro earlier before
    rcases List.mem_cons.mp before with rfl | older
    · exact keeps
    · have kept := (List.pairwise_cons.mp sound.fixed).1 earlier older
      exact keeps_trans _ _ _ kept keeps

include sound in
theorem sound_begin (size : Nat) : Sound (history.begin_ size) := by
  refine ⟨sound.entries, ?_, sound.fixed, ?_⟩
  · intro directory inside
    rcases sound.bytes directory inside with within | ⟨put, began, most⟩
    · exact Or.inl within
    · exact Or.inr ⟨put, .tail _ began, most⟩
  · intro failed
    obtain ⟨put, began, most⟩ := sound.admitted failed
    exact ⟨put, .tail _ began, most⟩

include sound in
theorem sound_fail (raised : Raised) (lacks : raised = exhaustedError →
    ∃ put ∈ history.began, maxCacheTotalBytes < totalBytes put.1 + put.2) :
    Sound (history.fail raised) := by
  refine ⟨sound.entries, sound.bytes, sound.fixed, ?_⟩
  intro failed
  rcases List.mem_cons.mp failed with same | earlier
  · exact lacks same.symm
  · exact sound.admitted earlier

end

section

/-- What a put keeps, from the directory in which it begins. -/
structure Putting (start : Directory) (destination : String) (payload : List UInt8)
    (history : History) : Prop where
  sound : Sound history
  began : (start, payload.length) ∈ history.began
  room : destination ∈ history.directory ∨ entryCount history.directory < maxCacheEntries

theorem putting_kept (start : Directory) (destination : String) (payload : List UInt8)
    (entry : isEntry destination = true) (few : entryCount start < maxCacheEntries) :
    Kept start destination payload (Putting start destination payload) := by
  intro history next putting advance
  have counts := advance_entries entry advance
  refine ⟨?_, putting.began, ?_⟩
  · apply sound_move putting.sound next
    · exact counts.1.trans few
    · exact Or.inr ⟨_, putting.began, advance_bytes entry advance⟩
    · exact advance_keeps advance
  · rcases counts.2 with stands | same
    · exact Or.inl stands
    · exact Or.inr (lt_of_eq_of_lt same few)

/-- What a put under a reservation leaves, where it raises and where its process dies. -/
structure Left (destination : String) (history : History) : Prop where
  sound : Sound history
  room : destination ∈ history.directory ∨ entryCount history.directory < maxCacheEntries

/-- Only a put without the bytes it asks for is refused for lack of room. -/
def Lacks (stop : Stop) (history : History) : Prop := stop = .raised exhaustedError →
    ∃ put ∈ history.began, maxCacheTotalBytes < totalBytes put.1 + put.2

theorem quiet_lacks (stop : Stop) (history : History) (quiet : Quiet stop) : Lacks stop history :=
  fun same => absurd same quiet

variable {history : History} {destination : String}

theorem ends_covered (program : Caching Bool)
    (ends : Ends program history (fun _ after => Left destination after)
      (fun stop after => Left destination after ∧ Lacks stop after)) :
    Ends (covered program) history (fun _ after => Left destination after)
      (fun _ after => Left destination after) := by
  intro outcomes
  have left := ends outcomes
  unfold Steps.Leaves at left
  unfold Steps.Leaves covered
  cases result : program ⟨history, outcomes⟩ with
  | ok value after => simpa [result] using left
  | error stop after =>
    rw [result] at left
    cases stop with
    | crash => exact left.1
    | os error => exact left.1
    | raised raised =>
      refine ⟨sound_fail left.1.sound raised ?_, left.1.room⟩
      intro same
      exact left.2 (congrArg Stop.raised same)

theorem ends_looking {α : Type} (program : Caching α) (finds : α → Prop)
    (looks : Looks program history finds Quiet) (left : Left destination history) :
    Ends program history (fun value after => after = history ∧ finds value)
      (fun stop after => Left destination after ∧ Lacks stop after) := by
  apply ends_mono looks
  · exact fun _ _ held => held
  · intro stop after held
    obtain ⟨rfl, quiet⟩ := held
    exact ⟨left, quiet_lacks stop _ quiet⟩

theorem ends_failing (program : Caching Bool) (code message : String)
    (other : code ≠ "LLM_CACHE_CAPACITY_EXHAUSTED")
    (ends : Ends program history (fun _ after => Left destination after)
      (fun stop after => Left destination after ∧ Lacks stop after)) :
    Ends (onOsError program (refuse code message)) history
      (fun _ after => Left destination after)
      (fun stop after => Left destination after ∧ Lacks stop after) := by
  apply ends_onOsError
  apply ends_mono ends
  · exact fun _ _ left => left
  · intro stop after left
    cases stop with
    | os error =>
      apply ends_mono (ends_looking _ (fun _ => True) (looks_refuse _ _ _ other) left.1)
      · intro _ last held
        obtain ⟨rfl, _⟩ := held
        exact left.1
      · exact fun _ _ held => held
    | crash => exact left
    | raised raised => exact left

theorem ends_publishing (key : String) (payload : List UInt8) (recheck : Caching Unit)
    (entry : isEntry destination = true)
    (rechecks : ∀ between, Looks recheck between (fun _ => True) Quiet)
    (sound : Sound history) (began : (history.directory, payload.length) ∈ history.began)
    (few : entryCount history.directory < maxCacheEntries) :
    Ends (publish key destination payload recheck) history (fun _ after => Left destination after)
      (fun stop after => Left destination after ∧ Lacks stop after) := by
  have kept := putting_kept history.directory destination payload entry few
  have putting : Putting history.directory destination payload history := ⟨sound, began, Or.inr few⟩
  apply ends_mono (ends_publish kept key recheck entry rechecks putting rfl)
  · intro _ after done
    exact ⟨done.1.sound, done.1.room⟩
  · intro stop after undisturbed
    exact ⟨⟨undisturbed.2.sound, undisturbed.2.room⟩, quiet_lacks stop after undisturbed.1⟩

theorem ends_begins (size : Nat) (done : Unit → History → Prop)
    {broken : Stop → History → Prop} (holds : done () (history.begin_ size)) :
    Ends (begins size) history done broken := fun _ => holds

theorem left_begin (size : Nat) (left : Left destination history) :
    Left destination (history.begin_ size) := ⟨sound_begin left.sound size, left.room⟩

end

section

variable {F : Type} [FloatText F] {discloses : String → Bool} (authenticationKey : List UInt8)
  (recursionLimit : Nat) {history : History}

theorem serialize_quiet (entry : Members F) (message : String) (raised : Raised)
    (failed : serialize recursionLimit entry message = .error raised) : Quiet (.raised raised) := by
  intro same
  cases same
  unfold serialize at failed
  by_cases encodable : Artifacts.encodable recursionLimit (.obj entry) = true
  · by_cases short : (Identifiers.canonicalJson (.obj entry)).length ≤ maxCacheBytes
    · simp [require, encodable, short, bind, Except.bind, pure, Except.pure] at failed
    · simp [require, encodable, short, bind, Except.bind, writeFailed, exhaustedError] at failed
  · simp [require, encodable, bind, Except.bind, exhaustedError] at failed

theorem ends_putReserved (put : GrowthPut (F := F) discloses) (safe : safeKey put.key = true)
    (left : Left (put.key ++ ".json") history) :
    Ends (putReserved authenticationKey recursionLimit put) history
      (fun _ after => Left (put.key ++ ".json") after)
      (fun stop after => Left (put.key ++ ".json") after ∧ Lacks stop after) := by
  apply ends_bind opens _ _ _ (ends_looking _ _ looks_opens left)
  intro opened after held
  obtain ⟨rfl, _⟩ := held
  cases opened with
  | false => exact ends_pure _ _ left
  | true =>
    apply ends_failing _ _ _ (by decide)
    apply ends_bind _ _ _ _ (ends_looking _ _ (looks_requireSafe _ _) left)
    intro _ after held
    obtain ⟨rfl, _⟩ := held
    apply ends_bind _ _ _ _ (ends_looking _ _ (looks_requireAbsent _) left)
    intro _ after held
    obtain ⟨rfl, absent⟩ := held
    have few := left.room.resolve_left absent
    apply ends_checked
    · intro raised failed
      exact ⟨left, quiet_lacks _ _ (serialize_quiet recursionLimit _ _ _ failed)⟩
    · intro payload _
      apply ends_bind _ _ fun _ begun => begun = after.begin_ payload.length
      · exact ends_begins _ _ rfl
      · intro _ begun same
        subst same
        have leftBegun := left_begin payload.length left
        apply ends_bind _ _ fun _ last => last = after.begin_ payload.length
        · apply ends_mono (looks_capacity (put.key ++ ".json") payload.length)
          · exact fun _ _ held => held.1
          · intro stop after held
            obtain ⟨rfl, lacks⟩ := held
            refine ⟨leftBegun, ?_⟩
            intro same
            refine ⟨_, .head _, ?_⟩
            rcases lacks same with more | more | refused
            · exact absurd more (Nat.not_lt.mpr few.le)
            · exact Nat.lt_add_right _ more
            · by_contra fits
              exact refused ⟨Or.inr few, Or.inr (Nat.not_lt.mp fits)⟩
        · intro _ admitted same
          subst same
          apply ends_bind _ _ fun _ after => Left (put.key ++ ".json") after
          · exact ends_publishing put.key payload _ (growth_entry_name put.key safe)
              (fun _ => looks_recheck _) leftBegun.sound (.head _) few
          · intro _ final left
            exact ends_pure _ _ left

theorem ends_putAuthReserved (put : AuthPut F) (safe : safeKey put.key = true)
    (left : Left ("auth-" ++ put.key ++ ".json") history) :
    Ends (putAuthReserved authenticationKey recursionLimit put) history
      (fun _ after => Left ("auth-" ++ put.key ++ ".json") after)
      (fun stop after => Left ("auth-" ++ put.key ++ ".json") after ∧ Lacks stop after) := by
  apply ends_bind opens _ _ _ (ends_looking _ _ looks_opens left)
  intro opened after held
  obtain ⟨rfl, _⟩ := held
  cases opened with
  | false => exact ends_pure _ _ left
  | true =>
    apply ends_failing _ _ _ (by decide)
    apply ends_bind _ _ _ _ (ends_looking _ _ (looks_occupied _) left)
    intro occupied after held
    obtain ⟨rfl, vacant⟩ := held
    cases occupied with
    | true => exact ends_pure _ _ left
    | false =>
      have few := left.room.resolve_left (vacant rfl)
      apply ends_checked
      · intro raised failed
        exact ⟨left, quiet_lacks _ _ (serialize_quiet recursionLimit _ _ _ failed)⟩
      · intro payload _
        apply ends_bind _ _ fun _ begun => begun = after.begin_ payload.length
        · exact ends_begins _ _ rfl
        · intro _ begun same
          subst same
          have leftBegun := left_begin payload.length left
          apply ends_bind _ _ fun _ after => Left ("auth-" ++ put.key ++ ".json") after
          · exact ends_publishing put.key payload _ (auth_entry_name put.key safe)
              (fun _ => looks_pure _ _ _ trivial) leftBegun.sound (.head _) few
          · intro _ final left
            exact ends_pure _ _ left

end

section

variable {history : History}

/-- What holds between two calls: the reservation that stands has its room. -/
def Standing (held : Option String) (history : History) : Prop :=
  Sound history ∧ ∀ reservation, held = some reservation → Room reservation history.directory

theorem left_standing {key : String} (left : Left (key ++ ".json") history) :
    Standing (some key) history := by
  refine ⟨left.sound, ?_⟩
  intro reservation same
  cases same
  exact left.room

theorem lock_uncounted : isEntry ".capacity.lock" = false ∧ countedName ".capacity.lock" = false := by
  decide

theorem ends_openLock (sound : Sound history) :
    Ends openLock history (fun _ after => Sound after) (fun _ after => Sound after) := by
  apply ends_onOsError
  apply ends_attempt
  · exact sound
  · exact ends_throw _ _ sound
  · intro _ error _
    exact ends_throw _ _ sound
  · intro spare nothing next made
    have moved : Sound (history.move next) := by
      cases found : history.directory.lookup ".capacity.lock" with
      | none =>
        rw [found] at made
        cases made
        have absent := AList.lookup_eq_none.mp found
        apply sound_move sound
        · rw [entry_count_insert _ _ _ absent, lock_uncounted.1]
          exact sound.entries _ (.head _)
        · rw [total_bytes_insert _ _ _ absent, nameBytes, lock_uncounted.2]
          have within := sound.bytes _ (.head _)
          simpa using within
        · intro name file entry held
          have apart : name ≠ ".capacity.lock" := by
            intro same
            rw [same, lock_uncounted.1] at entry
            cases entry
          rwa [AList.lookup_insert_ne apart]
      | some file =>
        rw [found] at made
        simp only at made
        split at made
        · cases made
          apply sound_move sound
          · exact sound.entries _ (.head _)
          · exact sound.bytes _ (.head _)
          · exact fun _ _ _ held => held
        · cases made
    exact ⟨moved, ends_throw _ _ moved⟩

theorem ends_sound_look {α : Type} (program : Caching α) (finds : α → Prop) (stops : Stop → Prop)
    (looks : Looks program history finds stops) (sound : Sound history) :
    Ends program history (fun value after => after = history ∧ finds value)
      (fun _ after => Sound after) := by
  apply ends_mono looks
  · exact fun _ _ held => held
  · intro stop after held
    rw [held.1]
    exact sound

theorem ends_admission (key : String) (allowExisting : Bool) (destination : String)
    (sound : Sound history) :
    Ends (admit_ key allowExisting destination) history (fun _ after => Left destination after)
      (fun _ after => Sound after) := by
  have opened : Looks (onOsError sync (unsafe_ "LLM cache directory is unsafe.")) history
      (fun _ => True) Quiet := by
    apply looks_onOsError
    · exact looks_mono looks_sync (fun _ found => found) plain_quiet
    · exact looks_refuse _ _ _ (by decide)
  apply ends_bind _ _ _ _ (ends_sound_look _ _ _ opened sound)
  intro _ after held
  obtain ⟨rfl, _⟩ := held
  apply ends_bind openLock _ _ _ (ends_openLock sound)
  intro _ locked sound
  apply ends_bind sync _ _ _ (ends_sound_look _ _ _ looks_sync sound)
  intro _ after held
  obtain ⟨rfl, _⟩ := held
  apply ends_bind _ _ _ _ (ends_sound_look _ _ _ (looks_requireSafe _ _) sound)
  intro _ after held
  obtain ⟨rfl, _⟩ := held
  apply ends_bind _ _ _ _ (ends_sound_look _ _ _ (looks_exists destination) sound)
  intro exists_ after held
  obtain ⟨rfl, inside⟩ := held
  split
  · exact ends_throw _ _ sound
  · apply ends_mono (looks_capacity _ maxCacheBytes)
    · intro _ last held
      obtain ⟨rfl, admits⟩ := held
      refine ⟨sound, ?_⟩
      cases exists_ with
      | true => exact Or.inl (inside.mp rfl)
      | false => exact admits.entries
    · intro stop last held
      rw [held.1]
      exact sound

theorem ends_reservation {α : Type} (held : Option String) (key : String) (allowExisting : Bool)
    (entryPrefix : String) (body : Caching α) (standing : Standing held history)
    (bodies : ∀ after, Left (entryPrefix ++ key ++ ".json") after →
      Ends body after (fun _ last => Left (entryPrefix ++ key ++ ".json") last)
        (fun _ last => Left (entryPrefix ++ key ++ ".json") last)) :
    Ends (capacityReservation held key allowExisting entryPrefix body) history
      (fun _ after => Standing held after) (fun _ after => Standing held after) := by
  apply ends_checked _ _ fun _ _ => standing
  intro _ _
  apply ends_checked _ _ fun _ _ => standing
  intro _ _
  cases held with
  | none =>
    have standing' (final : History) (left : Left (entryPrefix ++ key ++ ".json") final) :
        Standing none final := ⟨left.sound, nofun⟩
    apply ends_bind (admit_ key allowExisting (entryPrefix ++ key ++ ".json")) _
      fun _ admitted => Left (entryPrefix ++ key ++ ".json") admitted
    · apply ends_mono (ends_admission key allowExisting _ standing.1)
      · exact fun _ _ left => left
      · exact fun _ _ sound => ⟨sound, nofun⟩
    · intro _ admitted left
      apply ends_mono (bodies admitted left)
      · exact fun _ final left => standing' final left
      · exact fun _ final left => standing' final left
  | some other =>
    simp only
    split
    · rename_i same
      subst same
      have left : Left (entryPrefix ++ key ++ ".json") history := ⟨standing.1, standing.2 _ rfl⟩
      apply ends_mono (bodies history left)
      · exact fun _ _ => left_standing
      · exact fun _ _ => left_standing
    · exact ends_throw _ _ standing

theorem ends_rescued {α : Type} (program : Caching α) (held : History → Prop)
    (ends : Ends program history (fun _ after => held after) (fun _ after => held after)) :
    Ends (rescued program) history (fun _ after => held after) (fun _ after => held after) := by
  intro outcomes
  have left := ends outcomes
  unfold Steps.Leaves at left
  unfold Steps.Leaves rescued
  cases result : program ⟨history, outcomes⟩ with
  | ok value after => simpa [result] using left
  | error stop after =>
    rw [result] at left
    cases stop <;> exact left

end

variable {F : Type} [FloatText F] (number : Json F → Json F → Bool) {discloses : String → Bool}
  (authenticationKey : List UInt8) (recursionLimit : Nat)

omit [FloatText F] in
theorem growth_safe (put : GrowthPut (F := F) discloses) (checked : put.check number = .ok ()) :
    safeKey put.key = true := by
  obtain ⟨_, first, _⟩ := bind_ok.mp checked
  rw [require_ok, Bool.and_eq_true, Bool.and_eq_true] at first
  exact first.1.1

omit [FloatText F] in
theorem auth_safe (put : AuthPut F) (checked : put.check = .ok ()) : safeKey put.key = true := by
  rw [AuthPut.check, require_ok, Bool.and_eq_true, Bool.and_eq_true, Bool.and_eq_true] at checked
  exact checked.1.1.1

theorem ends_put (held : Option String) (put : GrowthPut (F := F) discloses) (history : History)
    (standing : Standing held history) :
    Ends (put_ number authenticationKey recursionLimit held put) history
      (fun _ after => Standing held after) (fun _ after => Standing held after) := by
  apply ends_checked _ _ fun _ _ => standing
  intro _ checked
  have safe := growth_safe number put checked
  have body (after : History) (left : Left (put.key ++ ".json") after) :=
    ends_covered _ (ends_putReserved authenticationKey recursionLimit put safe left)
  split
  · rename_i same
    subst same
    have left : Left (put.key ++ ".json") history := ⟨standing.1, standing.2 _ rfl⟩
    apply ends_mono (body history left)
    · exact fun _ _ => left_standing
    · exact fun _ _ => left_standing
  · apply ends_reservation held put.key false "" _ standing
    rw [String.empty_append]
    exact body

theorem ends_putAuthRecord (held : Option String) (put : AuthPut F) (history : History)
    (standing : Standing held history) :
    Ends (putAuthRecord authenticationKey recursionLimit held put) history
      (fun _ after => Standing held after) (fun _ after => Standing held after) := by
  apply ends_checked _ _ fun _ _ => standing
  intro _ checked
  apply ends_reservation held put.key false "auth-" _ standing
  intro after left
  exact ends_covered _
    (ends_putAuthReserved authenticationKey recursionLimit put (auth_safe put checked) left)

mutual

theorem ends_perform (held : Option String) (call : Call F discloses) (history : History)
    (standing : Standing held history) :
    Ends (perform number authenticationKey recursionLimit held call) history
      (fun _ after => Standing held after) (fun _ after => Standing held after) :=
  match call with
  | .reserve key allowExisting entryPrefix body => by
    rw [perform]
    apply ends_rescued
    apply ends_reservation held key allowExisting entryPrefix _ standing
    intro after left
    have outer (last : History) (standing : Standing (some (entryPrefix ++ key)) last) :
        Left (entryPrefix ++ key ++ ".json") last := ⟨standing.1, standing.2 _ rfl⟩
    apply ends_mono (ends_performAll (some (entryPrefix ++ key)) body after (left_standing left))
    · exact fun _ last standing => outer last standing
    · exact fun _ last standing => outer last standing
  | .growth put => by
    rw [perform]
    exact ends_rescued _ _ (ends_put number authenticationKey recursionLimit held put history
      standing)
  | .auth put => by
    rw [perform]
    exact ends_rescued _ _ (ends_putAuthRecord authenticationKey recursionLimit held put history
      standing)

theorem ends_performAll (held : Option String) (calls : List (Call F discloses))
    (history : History) (standing : Standing held history) :
    Ends (performAll number authenticationKey recursionLimit held calls) history
      (fun _ after => Standing held after) (fun _ after => Standing held after) :=
  match calls with
  | [] => by
    rw [performAll]
    exact ends_pure _ _ standing
  | call :: calls => by
    rw [performAll]
    apply ends_bind _ _ fun _ after => Standing held after
    · exact ends_perform held call history standing
    · exact fun _ after standing => ends_performAll held calls after standing

end

/-- Whatever the calls and whatever fails, what holds of every directory goes on holding. -/
theorem run_sound (calls : List (Call F discloses)) (start : World) (sound : Sound start.history) :
    Sound (runAll number authenticationKey recursionLimit calls start).history := by
  unfold runAll
  induction calls generalizing start with
  | nil => exact sound
  | cons call calls ih =>
    rw [List.foldl_cons]
    apply ih
    have left := ends_perform number authenticationKey recursionLimit none call start.history
      ⟨sound, nofun⟩ start.outcomes
    unfold Steps.Leaves at left
    cases result : perform number authenticationKey recursionLimit none call start with
    | ok _ _ | error _ _ =>
      rw [result] at left
      exact left.1

end DosWeb.Llm.Cache
