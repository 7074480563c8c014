import DosWeb.Llm.CachePublishing
import Mathlib.Algebra.Order.BigOperators.Group.List

/-!
The room in the contract cache: what is counted, what a reservation admits and what a put takes.
-/

namespace DosWeb.Llm.Cache

def entryCount (directory : Directory) : Nat := (directory.keys.filter isEntry).length

def nameBytes (file : Sigma fun _ : String => Stored) : Nat :=
  if countedName file.1 then file.2.content.length else 0

/-- The bytes of the entries and temporary files of a directory. -/
def totalBytes (directory : Directory) : Nat := (directory.entries.map nameBytes).sum

section

variable (directory : Directory) (name : String) (file : Stored)

theorem entry_count_insert (absent : name ∉ directory) : entryCount (directory.insert name file) =
      entryCount directory + if isEntry name then 1 else 0 := by
  have keys : (directory.insert name file).keys = name :: directory.keys := by
    rw [AList.keys_insert, List.erase_of_not_mem (by rwa [← AList.mem_keys])]
  rw [entryCount, keys, entryCount]
  by_cases entry : isEntry name = true
  · rw [List.filter_cons_of_pos entry, List.length_cons, if_pos entry]
  · rw [List.filter_cons_of_neg entry, if_neg entry, Nat.add_zero]

theorem total_bytes_insert (absent : name ∉ directory) :
    totalBytes (directory.insert name file) = nameBytes ⟨name, file⟩ + totalBytes directory := by
  rw [totalBytes, AList.entries_insert_of_notMem absent, List.map_cons, List.sum_cons, totalBytes]

theorem entry_count_erase : entryCount (directory.erase name) ≤ entryCount directory := by
  rw [entryCount, AList.keys_erase, entryCount]
  exact (List.erase_sublist.filter _).length_le

theorem total_bytes_erase : totalBytes (directory.erase name) ≤ totalBytes directory := by
  have fewer : (directory.erase name).entries.Sublist directory.entries :=
    List.kerase_sublist name directory.entries
  exact (fewer.map nameBytes).sum_le_sum fun _ _ => Nat.zero_le _

theorem name_bytes_le : nameBytes ⟨name, file⟩ ≤ file.content.length := by
  unfold nameBytes
  split <;> simp

theorem entry_count_dropped (absent : name ∉ directory) :
    entryCount ((directory.insert name file).erase name) = entryCount directory := by
  have keys : ((directory.insert name file).erase name).keys = directory.keys := by
    rw [AList.keys_erase, AList.keys_insert, List.erase_cons_head,
      List.erase_of_not_mem (by rwa [← AList.mem_keys])]
  rw [entryCount, keys, entryCount]

end

section

def Keeps (before after : Directory) : Prop :=
  ∀ name file, isEntry name = true → before.lookup name = some file → after.lookup name = some file

theorem keeps_trans (first second third : Directory) (one : Keeps first second)
    (other : Keeps second third) : Keeps first third := by
  intro name file entry held
  exact other name file entry (one name file entry held)

variable {start before after : Directory} {destination : String} {payload : List UInt8}

theorem advance_keeps (advance : Advance start destination payload before after) :
    Keeps before after := by
  intro other file entry held
  have apart (name : String) (fresh : Fresh start name) : other ≠ name := by
    intro same
    rw [same, fresh.hidden] at entry
    cases entry
  cases advance with
  | create name fresh => rwa [AList.lookup_insert_ne (apart name fresh)]
  | write name part more fresh _ =>
    rw [AList.lookup_insert_ne (apart name fresh)] at held ⊢
    exact held
  | link name fresh absent =>
    have away : other ≠ destination := by
      intro same
      rw [AList.lookup_insert_ne (apart name fresh), same, AList.lookup_eq_none.mpr absent] at held
      cases held
    rwa [AList.lookup_insert_ne away]
  | drop name _ fresh _ | retire name fresh _ => rwa [AList.lookup_erase_ne (apart name fresh)]

theorem advance_entries (entry : isEntry destination = true)
    (advance : Advance start destination payload before after) :
    entryCount after ≤ entryCount start + 1 ∧
      (destination ∈ after ∨ entryCount after = entryCount start) := by
  have single (name : String) (fresh : Fresh start name) (file : Stored) :
      entryCount (start.insert name file) = entryCount start := by
    rw [entry_count_insert start name file fresh.absent, fresh.hidden]
    rfl
  have double (name : String) (fresh : Fresh start name) (absent : destination ∉ start) :
      entryCount ((start.insert name ⟨payload, true⟩).insert destination ⟨payload, true⟩) =
        entryCount start + 1 := by
    have away : destination ∉ start.insert name ⟨payload, true⟩ := by
      rw [AList.mem_insert, not_or]
      refine ⟨?_, absent⟩
      intro same
      rw [same, fresh.hidden] at entry
      cases entry
    rw [entry_count_insert _ _ _ away, single name fresh, if_pos entry]
  cases advance with
  | create name fresh | write name _ _ fresh _ =>
    rw [single name fresh]; exact ⟨Nat.le_succ _, Or.inr rfl⟩
  | link name fresh absent =>
    rw [double name fresh absent]
    exact ⟨le_rfl, Or.inl (AList.mem_insert _ |>.mpr (Or.inl rfl))⟩
  | drop name part fresh _ =>
    rw [entry_count_dropped _ _ _ fresh.absent]
    exact ⟨Nat.le_succ _, Or.inr rfl⟩
  | retire name fresh absent =>
    refine ⟨(entry_count_erase _ name).trans (double name fresh absent).le, Or.inl ?_⟩
    apply AList.mem_erase.mpr
    refine ⟨?_, AList.mem_insert _ |>.mpr (Or.inl rfl)⟩
    intro same
    rw [same, fresh.hidden] at entry
    cases entry

theorem advance_bytes (entry : isEntry destination = true)
    (advance : Advance start destination payload before after) :
    totalBytes after ≤ totalBytes start + 2 * payload.length := by
  have single (name : String) (fresh : Fresh start name) (part : List UInt8)
      (taken : part <+: payload) :
      totalBytes (start.insert name ⟨part, true⟩) ≤ totalBytes start + payload.length := by
    have own := name_bytes_le name ⟨part, true⟩
    have short := taken.length_le
    rw [total_bytes_insert start name _ fresh.absent]
    simp only at own
    omega
  have double (name : String) (fresh : Fresh start name) (absent : destination ∉ start) :
      totalBytes ((start.insert name ⟨payload, true⟩).insert destination ⟨payload, true⟩) ≤
        totalBytes start + 2 * payload.length := by
    have away : destination ∉ start.insert name ⟨payload, true⟩ := by
      rw [AList.mem_insert, not_or]
      refine ⟨?_, absent⟩
      intro same
      rw [same, fresh.hidden] at entry
      cases entry
    have own := name_bytes_le destination ⟨payload, true⟩
    have rest := single name fresh payload (List.prefix_refl _)
    rw [total_bytes_insert _ _ _ away]
    simp only at own
    omega
  cases advance with
  | create name fresh => have := single name fresh [] List.nil_prefix; omega
  | write name part more fresh taken => have := single name fresh more taken; omega
  | link name fresh absent => exact double name fresh absent
  | drop name part fresh taken =>
    have := total_bytes_erase (start.insert name ⟨part, true⟩) name
    have := single name fresh part taken
    omega
  | retire name fresh absent =>
    exact (total_bytes_erase _ name).trans (double name fresh absent)

end

variable {history : History}

theorem counted_entry (name : String) (entry : isEntry name = true) : countedName name = true := by
  rw [countedName, entry, Bool.true_or]

theorem looks_inspect (counts : Nat × Nat) (file : Sigma fun _ : String => Stored)
    (held : history.directory.lookup file.1 = some file.2) :
    Looks (inspect counts file.1) history
      (fun result => result =
        (counts.1 + (if isEntry file.1 then 1 else 0), counts.2 + nameBytes file))
      (fun stop => stop = .raised exhaustedError →
        maxCacheEntries < counts.1 + (if isEntry file.1 then 1 else 0) ∨
          maxCacheTotalBytes < counts.2 + nameBytes file) := by
  have quiet {finds : Nat × Nat → Prop} {room : Prop} {program : Caching (Nat × Nat)}
      (looks : Looks program history finds Quiet) :
      Looks program history finds fun stop => stop = .raised exhaustedError → room :=
    looks_mono looks (fun _ found => found) fun _ other same => absurd same other
  unfold inspect
  by_cases counted : countedName file.1 = true
  · rw [if_pos counted]
    have bytes : nameBytes file = file.2.content.length := if_pos counted
    apply looks_bind _ _ fun found => found = some file.2
    · apply looks_onOsError
      · apply looks_mono (looks_lstat file.1)
        · intro found same
          rw [same, held]
        · exact fun _ other same => absurd same other
      · apply looks_mono (looks_refuse _ _ _ (by decide))
        · exact fun _ found => found
        · exact fun _ other same => absurd same other
    · intro found same
      subst same
      by_cases safe : file.2.safe = true
      · simp only [safe, Bool.not_true, Bool.false_eq_true, if_false]
        generalize (if isEntry file.1 = true then 1 else 0) = one
        split
        · rename_i more
          apply looks_throw
          intro _
          rwa [bytes]
        · apply looks_pure
          rw [bytes]
      · simp only [safe, Bool.not_false, if_true]
        exact quiet (looks_refuse _ _ _ (by decide))
  · rw [if_neg counted]
    have plain : isEntry file.1 = false := by
      cases entry : isEntry file.1 with
      | false => rfl
      | true => exact absurd (counted_entry _ entry) counted
    apply looks_pure
    rw [plain, nameBytes, if_neg counted]
    rfl

theorem looks_counts (files : List (Sigma fun _ : String => Stored)) (counts : Nat × Nat)
    (held : ∀ file ∈ files, history.directory.lookup file.1 = some file.2) :
    Looks ((files.map Sigma.fst).foldlM inspect counts) history
      (fun result => result = (counts.1 + ((files.map Sigma.fst).filter isEntry).length,
        counts.2 + (files.map nameBytes).sum))
      (fun stop => stop = .raised exhaustedError →
        maxCacheEntries < counts.1 + ((files.map Sigma.fst).filter isEntry).length ∨
          maxCacheTotalBytes < counts.2 + (files.map nameBytes).sum) := by
  induction files generalizing counts with
  | nil => exact looks_pure _ _ _ rfl
  | cons file files ih =>
    obtain ⟨own, others⟩ := List.forall_mem_cons.mp held
    have names : ((file :: files).map Sigma.fst).filter isEntry =
        (if isEntry file.1 then [file.1] else []) ++ (files.map Sigma.fst).filter isEntry := by
      rw [List.map_cons, List.filter_cons]
      split <;> rfl
    have entries : (((file :: files).map Sigma.fst).filter isEntry).length =
        (if isEntry file.1 then 1 else 0) + ((files.map Sigma.fst).filter isEntry).length := by
      rw [names, List.length_append]
      split <;> rfl
    rw [entries, List.map_cons, List.map_cons, List.sum_cons, List.foldlM_cons]
    apply looks_bind _ _ fun result => result =
      (counts.1 + (if isEntry file.1 then 1 else 0), counts.2 + nameBytes file)
    · apply looks_mono (looks_inspect counts file own)
      · exact fun _ found => found
      · intro stop lacks same
        rcases lacks same with more | more
        · exact Or.inl (by omega)
        · exact Or.inr (by omega)
    · intro result same
      subst same
      apply looks_mono (ih _ others)
      · intro result found
        rw [found, Nat.add_assoc, Nat.add_assoc]
      · intro stop lacks same
        rcases lacks same with more | more
        · exact Or.inl (by simpa only [Nat.add_assoc] using more)
        · exact Or.inr (by simpa only [Nat.add_assoc] using more)

structure Admits (directory : Directory) (destination : String) (size : Nat) : Prop where
  entries : destination ∈ directory ∨ entryCount directory < maxCacheEntries
  bytes : destination ∈ directory ∨ totalBytes directory + size ≤ maxCacheTotalBytes

theorem looks_capacity (destination : String) (size : Nat) :
    Looks (requireCacheCapacity destination size) history
      (fun _ => Admits history.directory destination size)
      (fun stop => stop = .raised exhaustedError → maxCacheEntries < entryCount history.directory ∨
          maxCacheTotalBytes < totalBytes history.directory ∨
            ¬ Admits history.directory destination size) := by
  apply looks_bind _ _ fun names => names = history.directory.keys
  · apply looks_onOsError
    · apply looks_mono (looks_look AList.keys)
      · exact fun _ found => found
      · exact fun _ plain same => absurd same (plain_quiet _ plain)
    · apply looks_mono (looks_refuse _ _ _ (by decide))
      · exact fun _ found => found
      · exact fun _ other same => absurd same other
  · intro names same
    subst same
    have held : ∀ file ∈ history.directory.entries,
        history.directory.lookup file.1 = some file.2 := by
      intro file inside
      exact AList.mem_lookup_iff.mpr inside
    apply looks_bind _ _ fun counts => counts =
      (entryCount history.directory, totalBytes history.directory)
    · apply looks_mono (looks_counts history.directory.entries (0, 0) held)
      · intro counts found
        rw [found, Nat.zero_add, Nat.zero_add]
        rfl
      · intro stop lacks same
        rcases lacks same with more | more
        · rw [Nat.zero_add] at more
          exact Or.inl more
        · rw [Nat.zero_add] at more
          exact Or.inr (Or.inl more)
    · intro counts same
      subst same
      have replacing : history.directory.keys.contains destination = true ↔
          destination ∈ history.directory := by
        rw [List.contains_iff_mem, AList.mem_keys]
      dsimp only
      by_cases inside : destination ∈ history.directory
      · rw [replacing.mpr inside, if_pos rfl, Bool.not_true, Bool.false_and, Bool.false_or]
        split
        · rename_i more
          exact looks_throw _ _ _ fun _ => Or.inr (Or.inl (of_decide_eq_true more))
        · exact looks_pure _ _ _ ⟨Or.inl inside, Or.inl inside⟩
      · have absent : history.directory.keys.contains destination = false := by
          rwa [← Bool.not_eq_true, replacing]
        rw [absent, if_neg Bool.false_ne_true, Bool.not_false, Bool.true_and]
        split
        · rename_i lacks
          apply looks_throw
          intro _
          refine Or.inr (Or.inr ?_)
          intro admits
          have entries := admits.entries.resolve_left inside
          have bytes := admits.bytes.resolve_left inside
          rcases Bool.or_eq_true_iff.mp lacks with full | full
          · exact absurd (of_decide_eq_true full) (by omega)
          · exact absurd (of_decide_eq_true full) (by omega)
        · rename_i fits
          rw [Bool.not_eq_true, Bool.or_eq_false_iff, decide_eq_false_iff_not,
            decide_eq_false_iff_not] at fits
          exact looks_pure _ _ _ ⟨Or.inr (by omega), Or.inr (by omega)⟩

end DosWeb.Llm.Cache
