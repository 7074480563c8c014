import DosWeb.CanonicalJson
import DosWeb.Llm.CacheRuns

/-!
The limits of the contract cache, and a run that goes over them.
-/

namespace DosWeb.Llm.Cache

open Library Library.JsonValue Library.JsonText Library.JsonSize Identifiers

def WithinLimits (directory : Directory) : Prop :=
  entryCount directory ≤ maxCacheEntries ∧ totalBytes directory ≤ maxCacheTotalBytes

def begun (directory : Directory) (outcomes : List Outcome) : World :=
  ⟨⟨directory, [], [], []⟩, outcomes⟩

section

variable {F : Type} [FloatText F] (number : Json F → Json F → Bool) {discloses : String → Bool}
  (authenticationKey : List UInt8) (recursionLimit : Nat)

def ran (calls : List (Call F discloses)) (start : Directory) (outcomes : List Outcome) : History :=
  (runAll number authenticationKey recursionLimit calls (begun start outcomes)).history

/-- Whatever the calls and whatever fails, there are never more entries than allowed and an entry
stays as it is; where every put begins with room for its payload twice, there are never more bytes
than allowed either, and no put under a reservation is refused for lack of room. -/
theorem limits_hold_when (calls : List (Call F discloses)) (start : Directory)
    (outcomes : List Outcome) (within : WithinLimits start) :
    (∀ directory ∈ (ran number authenticationKey recursionLimit calls start outcomes).stood,
        entryCount directory ≤ maxCacheEntries) ∧
      ((ran number authenticationKey recursionLimit calls start outcomes).stood.Pairwise
        fun later earlier => Keeps earlier later) ∧
      ((∀ put ∈ (ran number authenticationKey recursionLimit calls start outcomes).began,
          totalBytes put.1 + 2 * put.2 ≤ maxCacheTotalBytes) →
        (∀ directory ∈ (ran number authenticationKey recursionLimit calls start outcomes).stood,
            totalBytes directory ≤ maxCacheTotalBytes) ∧ exhaustedError ∉
            (ran number authenticationKey recursionLimit calls start outcomes).failures) := by
  have initial : Sound (begun start outcomes).history := by
    refine ⟨?_, ?_, List.pairwise_singleton _ _, nofun⟩
    · intro directory inside
      rw [List.mem_singleton.mp inside]
      exact within.1
    · intro directory inside
      rw [List.mem_singleton.mp inside]
      exact Or.inl within.2
  have sound := run_sound number authenticationKey recursionLimit calls _ initial
  refine ⟨sound.entries, sound.fixed, fun roomy => ⟨?_, ?_⟩⟩
  · intro directory inside
    rcases sound.bytes directory inside with fits | ⟨put, began, most⟩
    · exact fits
    · exact most.trans (roomy put began)
  · intro failed
    obtain ⟨put, began, more⟩ := sound.admitted failed
    have fits := roomy put began
    omega

end

section

variable {α β : Type} {history : History} {rest : List Outcome}

theorem run_bind {program : Caching α} (next : α → Caching β) {world after : World} {value : α}
    (first : program world = .ok value after) : (program >>= next) world = next value after := by
  simp only [bind, EStateM.bind, first]

theorem run_onOsError (program handler : Caching α) (world after : World) (value : α)
    (first : program world = .ok value after) : onOsError program handler world = .ok value after := by
  simp only [onOsError, first]

theorem attempt_works (effect : Nat → Directory → Except Errno (α × Directory)) :
    attempt effect ⟨history, .works 0 :: rest⟩ = act (effect 0) ⟨history, rest⟩ := rfl

theorem sync_works : sync ⟨history, .works 0 :: rest⟩ = .ok () ⟨history, rest⟩ := rfl

theorem safe_works (name message : String) (absent : name ∉ history.directory) :
    requireSafe name message ⟨history, .works 0 :: rest⟩ = .ok () ⟨history, rest⟩ := by
  have gone := AList.lookup_eq_none.mpr absent
  have looked : entryIsUnsafe name ⟨history, .works 0 :: rest⟩ = .ok false ⟨history, rest⟩ := by
    change EStateM.Result.ok ((history.directory.lookup name).any fun file => !file.safe) _ = _
    rw [gone]
    rfl
  exact run_bind _ looked

theorem exists_works (name : String) (absent : name ∉ history.directory) :
    entryExists name ⟨history, .works 0 :: rest⟩ = .ok false ⟨history, rest⟩ := by
  have gone := AList.lookup_eq_none.mpr absent
  change EStateM.Result.ok (history.directory.lookup name).isSome _ = _
  rw [gone]
  rfl

theorem vacant_works (name : String) (absent : name ∉ history.directory) :
    occupied name ⟨history, .works 0 :: .works 0 :: rest⟩ = .ok false ⟨history, rest⟩ := by
  have gone := AList.lookup_eq_none.mpr absent
  have looked : entryIsUnsafe name ⟨history, .works 0 :: .works 0 :: rest⟩ =
      .ok false ⟨history, .works 0 :: rest⟩ := by
    change EStateM.Result.ok ((history.directory.lookup name).any fun file => !file.safe) _ = _
    rw [gone]
    rfl
  rw [occupied, run_bind _ looked]
  exact exists_works name absent

theorem lock_works (absent : ".capacity.lock" ∉ history.directory) :
    openLock ⟨history, .works 0 :: rest⟩ =
      .ok () ⟨history.move (history.directory.insert ".capacity.lock" ⟨[], true⟩), rest⟩ := by
  have gone := AList.lookup_eq_none.mpr absent
  apply run_onOsError
  rw [attempt_works]
  simp only [act, World.directory, gone]
  rfl

theorem create_works (key : String) (absent : temporaryName key 0 ∉ history.directory) :
    createPrivateTemporary key 16 ⟨history, .works 0 :: .works 0 :: rest⟩ =
      .ok (temporaryName key 0)
        ⟨history.move (history.directory.insert (temporaryName key 0) ⟨[], true⟩), rest⟩ := by
  have made : createExclusive key ⟨history, .works 0 :: .works 0 :: rest⟩ =
      .ok (temporaryName key 0)
        ⟨history.move (history.directory.insert (temporaryName key 0) ⟨[], true⟩),
          .works 0 :: rest⟩ := by
    rw [createExclusive, attempt_works]
    simp only [act, World.directory, absent, if_false]
    rfl
  have named := run_bind (fun name => do sync; return name) made
  rw [createPrivateTemporary, onExists, named]
  rfl

theorem write_works (name : String) (payload : List UInt8) (filled : payload ≠ [])
    (empty : history.directory.lookup name = some ⟨[], true⟩) :
    writeAll name payload ⟨history, .works 0 :: rest⟩ =
      .ok () ⟨history.move (history.directory.insert name ⟨payload, true⟩), rest⟩ := by
  have positive : 0 < payload.length := List.length_pos_of_ne_nil filled
  have written : write name payload ⟨history, .works 0 :: rest⟩ =
      .ok payload.length ⟨history.move (history.directory.insert name ⟨payload, true⟩), rest⟩ := by
    rw [write, attempt_works]
    simp only [act, World.directory, empty, Nat.sub_zero, List.take_length, List.nil_append]
    rfl
  rw [writeAll, dif_pos positive, run_bind _ written, dif_pos positive, List.drop_length,
    writeAll, dif_neg (by simp)]
  rfl

theorem link_works (source destination : String) (file : Stored)
    (held : history.directory.lookup source = some file)
    (absent : destination ∉ history.directory) :
    link source destination ⟨history, .works 0 :: rest⟩ =
      .ok () ⟨history.move (history.directory.insert destination file), rest⟩ := by
  have gone := AList.lookup_eq_none.mpr absent
  rw [link, attempt_works]
  simp only [act, World.directory, held, gone]
  rfl

variable (history rest) in
/-- When every step works, a put comes to remove its temporary file, beside which its entry
stands. -/
theorem publish_reaches (key destination : String) (payload : List UInt8)
    (recheck : Caching Unit) (checks : ∀ world, recheck world = .ok () world) (filled : payload ≠ [])
    (fresh : temporaryName key 0 ∉ history.directory) (absent : destination ∉ history.directory)
    (apart : destination ≠ temporaryName key 0) :
    ∃ linked : History, publish key destination payload recheck
        ⟨history, List.replicate 5 (.works 0) ++ rest⟩ =
          (do unlink (temporaryName key 0); sync) ⟨linked, rest⟩ ∧
      linked.directory = (history.directory.insert (temporaryName key 0) ⟨payload, true⟩).insert
        destination ⟨payload, true⟩ ∧ linked.began = history.began := by
  let started := history.move (history.directory.insert (temporaryName key 0) ⟨[], true⟩)
  let written := started.move (started.directory.insert (temporaryName key 0) ⟨payload, true⟩)
  let linked := written.move (written.directory.insert destination ⟨payload, true⟩)
  have made : createPrivateTemporary key 16 ⟨history, List.replicate 5 (.works 0) ++ rest⟩ =
      .ok (temporaryName key 0) ⟨started, List.replicate 3 (.works 0) ++ rest⟩ :=
    create_works key fresh
  have wrote : writeAll (temporaryName key 0) payload
      ⟨started, List.replicate 3 (.works 0) ++ rest⟩ =
        .ok () ⟨written, List.replicate 2 (.works 0) ++ rest⟩ :=
    write_works _ payload filled (AList.lookup_insert _)
  have synced : sync ⟨written, List.replicate 2 (.works 0) ++ rest⟩ =
      .ok () ⟨written, .works 0 :: rest⟩ := sync_works
  have left : destination ∉ written.directory := by
    change destination ∉ (history.directory.insert _ _).insert _ _
    rw [AList.mem_insert, AList.mem_insert, not_or, not_or]
    exact ⟨apart, apart, absent⟩
  have joined : link (temporaryName key 0) destination ⟨written, .works 0 :: rest⟩ =
      .ok () ⟨linked, rest⟩ := link_works _ _ _ (AList.lookup_insert _) left
  have body : (do
      writeAll (temporaryName key 0) payload
      sync
      recheck
      link (temporaryName key 0) destination : Caching Unit)
        ⟨started, List.replicate 3 (.works 0) ++ rest⟩ = .ok () ⟨linked, rest⟩ := by
    rw [run_bind _ wrote, run_bind _ synced, run_bind _ (checks _)]
    exact joined
  have retired : retiring (temporaryName key 0) (do
      writeAll (temporaryName key 0) payload
      sync
      recheck
      link (temporaryName key 0) destination)
        ⟨started, List.replicate 3 (.works 0) ++ rest⟩ = .ok () ⟨linked, rest⟩ := by
    rw [retiring, body]
  refine ⟨linked, ?_, ?_, rfl⟩
  · rw [publish, run_bind _ made, run_bind _ retired]
  · change ((history.directory.insert _ _).insert _ _).insert _ _ = _
    rw [AList.insert_insert]

end

section

variable (content : List UInt8) (rest : List Outcome)

def sampleKey : String := "0000000000000000000000000000000000000000000000000000000000000000"

def sampleDestination : String := "auth-" ++ sampleKey ++ ".json"

def otherName : String := "1111111111111111111111111111111111111111111111111111111111111111.json"

def crowded : Directory := AList.singleton otherName ⟨content, true⟩

def locked : History :=
  (begun (crowded content) []).history.move ((crowded content).insert ".capacity.lock" ⟨[], true⟩)

theorem locked_keys : (locked content).directory.keys = [".capacity.lock", otherName] := by
  change ((AList.singleton otherName _).insert ".capacity.lock" _).keys = _
  rw [AList.keys_insert, AList.keys_singleton]
  decide

theorem locked_absent (name : String) (lock : name ≠ ".capacity.lock") (other : name ≠ otherName) :
    name ∉ (locked content).directory := by
  rw [AList.mem_keys, locked_keys]
  simp [lock, other]

theorem other_counted : isEntry otherName = true ∧ countedName otherName = true := by decide

theorem locked_other : (locked content).directory.lookup otherName = some ⟨content, true⟩ := by
  change ((AList.singleton otherName _).insert ".capacity.lock" _).lookup _ = _
  rw [AList.lookup_insert_ne (by decide)]
  exact List.dlookup_cons_eq _ otherName _

theorem inspect_lock (counts : Nat × Nat) (world : World) :
    inspect counts ".capacity.lock" world = .ok counts world := by
  rw [inspect, lock_uncounted.2]
  rfl

theorem inspect_other (room : content.length ≤ maxCacheTotalBytes) :
    inspect (0, 0) otherName ⟨locked content, .works 0 :: rest⟩ =
      .ok (1, content.length) ⟨locked content, rest⟩ := by
  have looked : onOsError (lstat otherName) (unavailable "Could not inspect LLM cache capacity.")
      ⟨locked content, .works 0 :: rest⟩ = .ok (some ⟨content, true⟩) ⟨locked content, rest⟩ := by
    apply run_onOsError
    change EStateM.Result.ok ((locked content).directory.lookup otherName) _ = _
    rw [locked_other]
  have fits : ¬ (maxCacheEntries < 0 + 1 ∨ maxCacheTotalBytes < 0 + content.length) := by
    have limit : maxCacheEntries = 256 := rfl
    omega
  rw [inspect, if_pos other_counted.2, run_bind _ looked]
  simp only [Bool.not_true, Bool.false_eq_true, if_false, other_counted.1, if_true, fits]
  rw [Nat.zero_add, Nat.zero_add]
  rfl

theorem capacity_works (room : content.length + maxCacheBytes ≤ maxCacheTotalBytes) :
    requireCacheCapacity sampleDestination maxCacheBytes
        ⟨locked content, .works 0 :: .works 0 :: rest⟩ = .ok () ⟨locked content, rest⟩ := by
  have listed : onOsError (look AList.keys) (unavailable "Could not inspect LLM cache capacity.")
      ⟨locked content, .works 0 :: .works 0 :: rest⟩ =
        .ok [".capacity.lock", otherName] ⟨locked content, .works 0 :: rest⟩ := by
    apply run_onOsError
    change EStateM.Result.ok (locked content).directory.keys _ = _
    rw [locked_keys]
  have counted : [".capacity.lock", otherName].foldlM inspect (0, 0)
      ⟨locked content, .works 0 :: rest⟩ = .ok (1, content.length) ⟨locked content, rest⟩ := by
    rw [List.foldlM_cons, run_bind _ (inspect_lock _ _), List.foldlM_cons,
      run_bind _ (inspect_other content rest (by omega))]
    rfl
  have absent : [".capacity.lock", otherName].contains sampleDestination = false := by decide
  have few : decide (maxCacheEntries ≤ 1) = false := rfl
  have fits : decide (maxCacheTotalBytes < content.length + maxCacheBytes) = false :=
    decide_eq_false (Nat.not_lt.mpr room)
  rw [requireCacheCapacity, run_bind _ listed, run_bind _ counted]
  dsimp only
  rw [absent, if_neg Bool.false_ne_true, few, fits]
  rfl

theorem crowded_admits (room : content.length + maxCacheBytes ≤ maxCacheTotalBytes) :
    admit_ sampleKey false sampleDestination
        (begun (crowded content) (List.replicate 7 (.works 0) ++ rest)) =
      .ok () ⟨locked content, rest⟩ := by
  have absent : sampleDestination ∉ (locked content).directory :=
    locked_absent content _ (by decide) (by decide)
  have opened : onOsError sync (unsafe_ "LLM cache directory is unsafe.")
      (begun (crowded content) (List.replicate 7 (.works 0) ++ rest)) =
        .ok () (begun (crowded content) (List.replicate 6 (.works 0) ++ rest)) := rfl
  have taken : openLock (begun (crowded content) (List.replicate 6 (.works 0) ++ rest)) =
      .ok () ⟨locked content, List.replicate 5 (.works 0) ++ rest⟩ := by
    apply lock_works
    change ".capacity.lock" ∉ AList.singleton otherName _
    rw [AList.mem_keys, AList.keys_singleton]
    decide
  have synced : sync ⟨locked content, List.replicate 5 (.works 0) ++ rest⟩ =
      .ok () ⟨locked content, List.replicate 4 (.works 0) ++ rest⟩ := rfl
  have safe : requireSafe sampleDestination "LLM cache destination is unsafe."
      ⟨locked content, List.replicate 4 (.works 0) ++ rest⟩ =
        .ok () ⟨locked content, List.replicate 3 (.works 0) ++ rest⟩ := safe_works _ _ absent
  have looked : entryExists sampleDestination
      ⟨locked content, List.replicate 3 (.works 0) ++ rest⟩ =
        .ok false ⟨locked content, List.replicate 2 (.works 0) ++ rest⟩ := exists_works _ absent
  rw [admit_, run_bind _ opened, run_bind _ taken, run_bind _ synced,
    run_bind _ safe, run_bind _ looked]
  exact capacity_works content rest room

/-- Every step of a put works but the removal of its temporary file. -/
def retained : List Outcome := List.replicate 15 (.works 0) ++ [.fails]

def sampleTemporary : String := temporaryName sampleKey 0

variable {F : Type} [FloatText F] (authenticationKey : List UInt8) (recursionLimit : Nat)

theorem sample_apart : sampleDestination ≠ ".capacity.lock" ∧ sampleDestination ≠ otherName ∧
      sampleTemporary ≠ ".capacity.lock" ∧ sampleTemporary ≠ otherName ∧
        sampleDestination ≠ sampleTemporary := by decide

/-- The rest of a put from where its entry stands beside its temporary file. -/
def finish : Caching Bool :=
  onOsError (do
    unlink sampleTemporary
    sync
    return true) (refuse "LLM_CACHE_WRITE_FAILED" "Could not publish Auth Contract cache entry.")

theorem crowded_put (put : AuthPut F) (payload : List UInt8) (keyed : put.key = sampleKey)
    (serialized : serialize recursionLimit (put.entry authenticationKey)
      "Auth cache entry exceeds its byte limit." = .ok payload) (filled : payload ≠ []) :
    ∃ linked : History, putAuthReserved authenticationKey recursionLimit put
        ⟨locked content, List.replicate 8 (.works 0) ++ rest⟩ = finish ⟨linked, rest⟩ ∧
      linked.directory = ((locked content).directory.insert sampleTemporary ⟨payload, true⟩).insert
        sampleDestination ⟨payload, true⟩ ∧
      linked.began = [((locked content).directory, payload.length)] := by
  obtain ⟨lock, other, hidden, elsewhere, apart⟩ := sample_apart
  have absent := locked_absent content sampleDestination lock other
  have fresh := locked_absent content sampleTemporary hidden elsewhere
  obtain ⟨linked, published, stands⟩ := publish_reaches
    ((locked content).begin_ payload.length) rest sampleKey sampleDestination
    payload (return ()) (fun _ => rfl) filled fresh absent apart
  have opened : opens ⟨locked content, List.replicate 8 (.works 0) ++ rest⟩ =
      .ok true ⟨locked content, List.replicate 7 (.works 0) ++ rest⟩ := rfl
  have vacant : occupied sampleDestination ⟨locked content, List.replicate 7 (.works 0) ++ rest⟩ =
      .ok false ⟨locked content, List.replicate 5 (.works 0) ++ rest⟩ := vacant_works _ absent
  have serialised : ofChecked (serialize recursionLimit (put.entry authenticationKey)
      "Auth cache entry exceeds its byte limit.")
        ⟨locked content, List.replicate 5 (.works 0) ++ rest⟩ =
          .ok payload ⟨locked content, List.replicate 5 (.works 0) ++ rest⟩ := by
    rw [serialized]
    rfl
  have begins_ : begins payload.length ⟨locked content, List.replicate 5 (.works 0) ++ rest⟩ =
      .ok () ⟨(locked content).begin_ payload.length, List.replicate 5 (.works 0) ++ rest⟩ := rfl
  have destination : "auth-" ++ put.key ++ ".json" = sampleDestination := by
    rw [keyed]
    rfl
  have ended : (do
      publish sampleKey sampleDestination payload (return ())
      return true : Caching Bool)
        ⟨(locked content).begin_ payload.length, List.replicate 5 (.works 0) ++ rest⟩ =
          (do unlink sampleTemporary; sync; return true : Caching Bool) ⟨linked, rest⟩ := by
    simp only [bind, EStateM.bind] at published ⊢
    rw [published]
    unfold sampleTemporary
    cases unlink (temporaryName sampleKey 0) ⟨linked, rest⟩ <;> rfl
  unfold sampleTemporary
  refine ⟨linked, ?_, stands⟩
  rw [putAuthReserved, run_bind _ opened, if_pos rfl, onOsError, destination,
    run_bind _ vacant, if_neg Bool.false_ne_true, run_bind _ serialised,
    run_bind _ begins_, keyed, ended, finish, onOsError]

theorem crowded_record (put : AuthPut F) (payload : List UInt8) (keyed : put.key = sampleKey)
    (checked : put.check = .ok ())
    (serialized : serialize recursionLimit (put.entry authenticationKey)
      "Auth cache entry exceeds its byte limit." = .ok payload) (filled : payload ≠ [])
    (room : content.length + maxCacheBytes ≤ maxCacheTotalBytes) :
    ∃ linked : History, putAuthRecord authenticationKey recursionLimit none put
        (begun (crowded content) (List.replicate 15 (.works 0) ++ rest)) =
          covered finish ⟨linked, rest⟩ ∧
      linked.directory = ((locked content).directory.insert sampleTemporary ⟨payload, true⟩).insert
        sampleDestination ⟨payload, true⟩ ∧
      linked.began = [((locked content).directory, payload.length)] := by
  obtain ⟨linked, reached, stands⟩ := crowded_put content rest authenticationKey recursionLimit put
    payload keyed serialized filled
  have outcomes : List.replicate 15 (.works 0) ++ rest =
      List.replicate 7 (.works 0) ++ (List.replicate 8 (.works 0) ++ rest) := rfl
  have admitted : admit_ sampleKey false ("auth-" ++ sampleKey ++ ".json")
      (begun (crowded content)
        (List.replicate 7 (.works 0) ++ (List.replicate 8 (.works 0) ++ rest))) =
          .ok () ⟨locked content, List.replicate 8 (.works 0) ++ rest⟩ :=
    crowded_admits content _ room
  rw [outcomes]
  generalize List.replicate 7 (Outcome.works 0) ++ (List.replicate 8 (.works 0) ++ rest) = steps
    at admitted ⊢
  have asked : ofChecked put.check (begun (crowded content) steps) =
      .ok () (begun (crowded content) steps) := by
    rw [checked]
    rfl
  have safe : safeKey sampleKey = true := by decide
  have known : ofChecked (require (safeKey sampleKey) (.valueError "invalid cache key"))
      (begun (crowded content) steps) = .ok () (begun (crowded content) steps) := by
    rw [safe]
    rfl
  have named : ofChecked (require (["", "auth-"].contains "auth-")
      (.valueError "invalid cache entry prefix")) (begun (crowded content) steps) =
        .ok () (begun (crowded content) steps) := rfl
  refine ⟨linked, ?_, stands⟩
  rw [putAuthRecord, run_bind _ asked, capacityReservation, keyed,
    run_bind _ known, run_bind _ named, run_bind _ admitted, covered, reached, covered]

theorem crowded_run (number : Json F → Json F → Bool) (discloses : String → Bool)
    (put : AuthPut F) (payload : List UInt8) (keyed : put.key = sampleKey)
    (checked : put.check = .ok ())
    (serialized : serialize recursionLimit (put.entry authenticationKey)
      "Auth cache entry exceeds its byte limit." = .ok payload) (filled : payload ≠ [])
    (room : content.length + maxCacheBytes ≤ maxCacheTotalBytes) :
    ∃ after : History, ran number authenticationKey recursionLimit
        ([.auth put] : List (Call F discloses)) (crowded content) retained = after ∧
      after.directory = ((locked content).directory.insert sampleTemporary ⟨payload, true⟩).insert
        sampleDestination ⟨payload, true⟩ ∧
      after.began = [((locked content).directory, payload.length)] := by
  obtain ⟨linked, reached, stands, began⟩ := crowded_record content [.fails] authenticationKey
    recursionLimit put payload keyed checked serialized filled room
  refine ⟨_, rfl, ?_, ?_⟩
  · rw [← stands, ran, runAll, List.foldl_cons, perform, rescued, retained, reached]
    rfl
  · rw [← began, ran, runAll, List.foldl_cons, perform, rescued, retained, reached]
    rfl

end

section

variable {F : Type} [FloatText F] (authenticationKey : List UInt8)

/-- A record whose contract has one text of a given length. -/
def samplePut (size : Nat) : AuthPut F where
  key := sampleKey
  identity := ⟨[("model", .str "grok-4.6")], by simp [DistinctKeys, DistinctMembers]⟩
  contract := ⟨[("note", .str (String.ofList (List.replicate size 'a')))],
    by simp [DistinctKeys, DistinctMembers]⟩
  rawResponse := ""
  acceptedPromptVariant := "initial"
  actualModel := "grok-4.6"

theorem digest_size (bytes : List UInt8) :
    (Text.utf8 (quote (Sha256.hexdigest bytes))).length = 66 := by
  have plain : ∀ c ∈ "0123456789abcdef".toList, escapeChar c = [c] ∧ c.toNat < 128 := by
    simp [escapeChar]
  rw [quote_size, Sha256.hexdigest_length]
  · exact fun c inside => (plain c (Sha256.hexdigest_digits bytes c inside)).1
  · exact fun c inside => (plain c (Sha256.hexdigest_digits bytes c inside)).2

theorem note_size (size : Nat) :
    (Text.utf8 (quote (String.ofList (List.replicate size 'a')))).length = size + 2 := by
  have letter : ∀ c ∈ (String.ofList (List.replicate size 'a')).toList, c = 'a' := by
    intro c inside
    rw [String.toList_ofList] at inside
    exact List.eq_of_mem_replicate inside
  rw [quote_size, ← String.length_toList, String.toList_ofList, List.length_replicate]
  · intro c inside
    rw [letter c inside]
    decide
  · intro c inside
    rw [letter c inside]
    decide

theorem fixed_sizes :
    [ "cache_format", authCacheFormat, "cache_key", sampleKey, "identity", "model", "grok-4.6",
      "contract", "note", "raw_response", "", "accepted_prompt_variant", "initial",
      "actual_model", "entry_hash", "entry_hmac"].map (fun text => (Text.utf8 (quote text)).length) =
        [14, 24, 11, 66, 10, 7, 10, 10, 6, 14, 2, 25, 9, 14, 12, 12] := by
  decide

theorem render_text (text : String) : render (.str text : Json F) = quote text := rfl

theorem single_size (key : String) (value : Json F) :
    (Text.utf8 (render (.obj [(key, value)]))).length = memberSize (key, value) + 1 :=
  object_size _ (List.cons_ne_nil _ _)

theorem sample_size (size : Nat) :
    (canonicalJson (.obj ((samplePut size : AuthPut F).entry authenticationKey))).length =
      size + 415 := by
  have sizes := fixed_sizes
  simp only [List.map_cons, List.map_nil, List.cons.injEq, and_true] at sizes
  rw [canonical_size _ (by simp [AuthPut.entry, withHmac])]
  simp only [AuthPut.entry, withHmac, withHash, AuthPut.stable, samplePut, List.cons_append,
    List.nil_append, List.map_cons, List.map_nil, List.sum_cons, List.sum_nil,
    JsonValue.normalize, normalizeMembers, insertMember, single_size, memberSize, render_text,
    authHmac, Hmac.hexdigest, sha256CanonicalJson, digest_size, note_size, sizes]
  omega

omit [FloatText F] in
theorem sample_checked (size : Nat) : (samplePut size : AuthPut F).check = .ok () := by
  have safe : safeKey sampleKey = true := by decide
  have model : validAuthActualModel (samplePut size : AuthPut F).identity.val
      (.str (samplePut size : AuthPut F).actualModel) = true := by
    change (supportedModels.contains "grok-4.6" && decide (0 < byteLength "grok-4.6") &&
      decide (byteLength "grok-4.6" ≤ 512) && modelResponseMatches "grok-4.6" "grok-4.6") = true
    decide
  have rest : (safeKey (samplePut size : AuthPut F).key &&
      decide (byteLength (samplePut size : AuthPut F).rawResponse ≤ maxRawResponseBytes) &&
        promptVariants.contains (samplePut size : AuthPut F).acceptedPromptVariant) = true := by
    change (safeKey sampleKey && decide (byteLength "" ≤ maxRawResponseBytes) &&
      promptVariants.contains "initial") = true
    rw [safe]
    decide
  rw [AuthPut.check, rest, model]
  rfl

theorem sample_serialized (size : Nat) (fits : size + 415 ≤ maxCacheBytes) (message : String) :
    serialize 1000 ((samplePut size : AuthPut F).entry authenticationKey) message =
      .ok (canonicalJson (.obj ((samplePut size : AuthPut F).entry authenticationKey))) := by
  have printed : Artifacts.encodable 1000
      (.obj ((samplePut size : AuthPut F).entry authenticationKey)) = true := by
    simp [Artifacts.encodable, Artifacts.nestsWithin, AuthPut.entry, withHmac, withHash,
      AuthPut.stable, samplePut, printable, printableMembers, spread, spreadMembers]
  rw [← sample_size (F := F) authenticationKey] at fits
  simp [serialize, require, printed, fits, bind, Except.bind, pure, Except.pure]

theorem locked_bytes (content : List UInt8) :
    totalBytes (locked content).directory = content.length := by
  have free : ".capacity.lock" ∉ crowded content := by
    rw [crowded, AList.mem_keys, AList.keys_singleton]
    decide
  change totalBytes ((crowded content).insert ".capacity.lock" _) = _
  rw [total_bytes_insert _ _ _ free, nameBytes, lock_uncounted.2]
  change _ + ([_].map nameBytes).sum = _
  simp [nameBytes, other_counted.2]

theorem crowded_bytes (content payload : List UInt8) :
    totalBytes (((locked content).directory.insert sampleTemporary ⟨payload, true⟩).insert
      sampleDestination ⟨payload, true⟩) = content.length + 2 * payload.length := by
  obtain ⟨lock, other, hidden, elsewhere, apart⟩ := sample_apart
  have absent := locked_absent content sampleDestination lock other
  have fresh := locked_absent content sampleTemporary hidden elsewhere
  have entry : countedName sampleDestination = true :=
    counted_entry _ (auth_entry_name sampleKey (by decide))
  have temporary : countedName sampleTemporary = true := by decide +kernel
  have away : sampleDestination ∉ (locked content).directory.insert sampleTemporary ⟨payload, true⟩ := by
    rw [AList.mem_insert, not_or]
    exact ⟨apart, absent⟩
  rw [total_bytes_insert _ _ _ away, total_bytes_insert _ _ _ fresh, locked_bytes, nameBytes, nameBytes,
    if_pos entry, if_pos temporary]
  simp only
  omega

theorem crowded_within (content : List UInt8)
    (room : content.length ≤ maxCacheTotalBytes) : WithinLimits (crowded content) := by
  constructor
  · change ([otherName].filter isEntry).length ≤ maxCacheEntries
    rw [List.filter_cons_of_pos other_counted.1]
    decide
  · change ([_].map nameBytes).sum ≤ maxCacheTotalBytes
    simpa [nameBytes, other_counted.2] using room

def silent : String → Bool := fun _ => false

theorem sample_ran (size : Nat) (content : List UInt8) (fits : size + 415 ≤ maxCacheBytes)
    (room : content.length + maxCacheBytes ≤ maxCacheTotalBytes) :
    totalBytes (ran (fun _ _ => false) [] 1000 ([.auth (samplePut size)] : List (Call Empty silent))
        (crowded content) retained).directory = content.length + 2 * (size + 415) ∧
      (ran (fun _ _ => false) [] 1000 ([.auth (samplePut size)] : List (Call Empty silent))
        (crowded content) retained).began = [((locked content).directory, size + 415)] := by
  have length := sample_size (F := Empty) [] size
  have filled : canonicalJson (.obj ((samplePut size : AuthPut Empty).entry [])) ≠ [] := by
    intro empty
    rw [empty, List.length_nil] at length
    omega
  obtain ⟨after, same, stands, began⟩ := crowded_run content [] 1000 (fun _ _ => false) silent
    (samplePut size) _ rfl (sample_checked size) (sample_serialized [] size fits _) filled room
  rw [same, stands, began, crowded_bytes, length]
  exact ⟨rfl, rfl⟩

/-- A put whose temporary file stays, in a cache with room for both. -/
theorem sample_limits_hold : (∀ directory ∈ (ran (fun _ _ => false) [] 1000
        ([.auth (samplePut 1)] : List (Call Empty silent)) (crowded [0]) retained).stood,
      entryCount directory ≤ maxCacheEntries ∧ totalBytes directory ≤ maxCacheTotalBytes) ∧
      ((ran (fun _ _ => false) [] 1000 ([.auth (samplePut 1)] : List (Call Empty silent))
        (crowded [0]) retained).stood.Pairwise fun later earlier => Keeps earlier later) ∧
      exhaustedError ∉ (ran (fun _ _ => false) [] 1000
        ([.auth (samplePut 1)] : List (Call Empty silent)) (crowded [0]) retained).failures := by
  obtain ⟨entries, kept, bytes⟩ := limits_hold_when (fun _ _ => false) [] 1000
    ([.auth (samplePut 1)] : List (Call Empty silent)) (crowded [0]) retained
    (crowded_within [0] (by decide))
  have roomy := bytes fun put began => by
    rw [(sample_ran 1 [0] (by decide) (by decide)).2, List.mem_singleton] at began
    rw [began, locked_bytes]
    decide
  exact ⟨fun directory stood => ⟨entries directory stood, roomy.1 directory stood⟩, kept, roomy.2⟩

/-- An entry that leaves room for one of the largest entries, and no more. -/
@[irreducible] def bulk : List UInt8 := List.replicate 133693440 0
theorem bulk_length : bulk.length = 133693440 := by
  rw [bulk, List.length_replicate]

theorem doubled_overfills (size : Nat) (content : List UInt8) (fits : size + 415 ≤ maxCacheBytes)
    (room : content.length + maxCacheBytes = maxCacheTotalBytes)
    (large : maxCacheBytes < 2 * (size + 415)) : WithinLimits (crowded content) ∧
      maxCacheTotalBytes < totalBytes (ran (fun _ _ => false) [] 1000
        ([.auth (samplePut size)] : List (Call Empty silent)) (crowded content) retained).directory := by
  refine ⟨crowded_within content (by omega), ?_⟩
  rw [(sample_ran size content fits room.le).1]
  omega

/-- From within its limits the cache goes over them where a temporary file is not removed. -/
theorem retained_temporary_overfills : WithinLimits (crowded bulk) ∧
      maxCacheTotalBytes < totalBytes (ran (fun _ _ => false) [] 1000
        ([.auth (samplePut 300000)] : List (Call Empty silent)) (crowded bulk) retained).directory := by
  apply doubled_overfills
  · decide
  · rw [bulk_length]
    rfl
  · decide
end

end DosWeb.Llm.Cache
