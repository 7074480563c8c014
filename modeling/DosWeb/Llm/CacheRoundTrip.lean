import DosWeb.Llm.CacheLimits
import DosWeb.Llm.CacheTrust

/-!
When what a put stores is read back, and when nothing else is.
-/

namespace DosWeb.Llm.Cache

open Library Library.JsonValue Library.JsonText Library.JsonSize Library.JsonRecord Identifiers

section

variable {α : Type} {history : History}

def Returns (program : Caching α) (history : History) (done : α → History → Prop) : Prop :=
  Ends program history done fun _ _ => True

section

variable {β : Type} (first : Caching α) (next : α → Caching β) (done : β → History → Prop)

include β

theorem returns_bind (finds : α → Prop) (stops : Stop → Prop)
    (looks : Looks first history finds stops)
    (follows : ∀ value, finds value → Returns (next value) history done) :
    Returns (first >>= next) history done := by
  apply ends_bind first next fun value after => after = history ∧ finds value
  · apply ends_mono looks
    · exact fun _ _ held => held
    · exact fun _ _ _ => trivial
  · intro value after held
    obtain ⟨rfl, found⟩ := held
    exact follows value found

theorem returns_skip (follows : ∀ value after, Returns (next value) after done) :
    Returns (first >>= next) history done := by
  apply ends_bind first next fun _ _ => True
  · intro outcomes
    unfold Steps.Leaves
    cases first ⟨history, outcomes⟩ <;> trivial
  · exact fun value after _ => follows value after

end

theorem returns_refused (program : Caching α) (code message : String)
    (done : α → History → Prop) (returns : Returns program history done) :
    Returns (onOsError program (refuse code message)) history done := by
  apply ends_onOsError
  apply ends_mono returns
  · exact fun _ _ held => held
  · intro stop after _
    cases stop with
    | os error => exact ends_throw _ _ trivial
    | crash => trivial
    | raised raised => trivial

theorem returns_covered (program : Caching Bool) (done : Bool → History → Prop)
    (returns : Returns program history done) : Returns (covered program) history done := by
  intro outcomes
  have left := returns outcomes
  unfold Steps.Leaves at left
  unfold Steps.Leaves covered
  cases result : program ⟨history, outcomes⟩ with
  | ok value after => simpa [result] using left
  | error stop after => cases stop <;> trivial

theorem returns_reserved (held : Option String) (key : String) (allowExisting : Bool)
    (entryPrefix : String) (body : Caching α) (done : α → History → Prop)
    (bodies : ∀ after, Returns body after done) :
    Returns (capacityReservation held key allowExisting entryPrefix body) history done := by
  apply returns_skip
  intro _ _
  apply returns_skip
  intro _ after
  cases held with
  | none => exact returns_skip _ _ _ fun _ => bodies
  | some other =>
    simp only
    split
    · exact bodies after
    · exact ends_throw _ _ trivial

theorem returns_publish (key destination : String) (payload : List UInt8) (recheck : Caching Unit)
    (entry : isEntry destination = true)
    (rechecks : ∀ between, Looks recheck between (fun _ => True) Quiet) :
    Returns (publish key destination payload recheck) history
      (fun _ after => after.directory.lookup destination = some ⟨payload, true⟩) := by
  have kept : Kept history.directory destination payload fun _ => True := fun _ _ _ _ => trivial
  apply ends_mono (ends_publish kept key recheck entry rechecks trivial rfl)
  · exact fun _ _ done => done.2
  · exact fun _ _ _ => trivial

end

section

variable {F : Type} [FloatText F] (number : Json F → Json F → Bool) {discloses : String → Bool}
  (authenticationKey : List UInt8) (recursionLimit : Nat) {history : History}

structure Published (entry : Members F) (message destination : String) (after : History) : Prop where
  stored : ∃ bytes, serialize recursionLimit entry message = .ok bytes ∧
    after.directory.lookup destination = some ⟨bytes, true⟩

theorem returns_put (held : Option String) (put : GrowthPut (F := F) discloses) :
    Returns (put_ number authenticationKey recursionLimit held put) history
      (fun done after => done = true → put.check number = .ok () ∧
        Published recursionLimit (put.entry authenticationKey)
          "LLM cache entry exceeds its byte limit." (put.key ++ ".json") after) := by
  apply ends_checked _ _ fun _ _ => trivial
  intro _ checked
  have safe := growth_safe number put checked
  have body (after : History) : Returns (covered (putReserved authenticationKey recursionLimit put))
      after fun done last => done = true → put.check number = .ok () ∧
        Published recursionLimit (put.entry authenticationKey)
          "LLM cache entry exceeds its byte limit." (put.key ++ ".json") last := by
    apply returns_covered
    apply returns_bind _ _ _ _ _ looks_opens
    intro opened _
    cases opened with
    | false => exact ends_pure _ _ nofun
    | true =>
      apply returns_refused
      apply returns_bind _ _ _ _ _ (looks_requireSafe _ _)
      intro _ _
      apply returns_bind _ _ _ _ _ (looks_requireAbsent _)
      intro _ _
      apply ends_checked _ _ fun _ _ => trivial
      intro bytes made
      apply returns_skip
      intro _ _
      apply returns_skip
      intro _ _
      apply ends_bind _ _ _ _ (returns_publish put.key _ bytes _
        (growth_entry_name put.key safe) fun _ => looks_recheck _)
      intro _ last stands
      exact ends_pure _ _ fun _ => ⟨checked, ⟨bytes, made, stands⟩⟩
  split
  · exact body history
  · exact returns_reserved _ _ _ _ _ _ body

theorem returns_putAuthRecord (held : Option String) (put : AuthPut F) :
    Returns (putAuthRecord authenticationKey recursionLimit held put) history
      (fun done after => done = true → put.check = .ok () ∧
        Published recursionLimit (put.entry authenticationKey)
          "Auth cache entry exceeds its byte limit." ("auth-" ++ put.key ++ ".json") after) := by
  apply ends_checked _ _ fun _ _ => trivial
  intro _ checked
  have safe := auth_safe put checked
  apply returns_reserved
  intro after
  apply returns_covered
  apply returns_bind _ _ _ _ _ looks_opens
  intro opened _
  cases opened with
  | false => exact ends_pure _ _ nofun
  | true =>
    apply returns_refused
    apply returns_bind _ _ _ _ _ (looks_occupied _)
    intro taken _
    cases taken with
    | true => exact ends_pure _ _ nofun
    | false =>
      apply ends_checked _ _ fun _ _ => trivial
      intro bytes made
      apply returns_skip
      intro _ _
      apply ends_bind _ _ _ _ (returns_publish put.key _ bytes _
        (auth_entry_name put.key safe) fun _ => looks_pure _ _ _ trivial)
      intro _ last stands
      exact ends_pure _ _ fun _ => ⟨checked, ⟨bytes, made, stands⟩⟩

end

section

variable {F : Type} [FloatText F] [LawfulFloatText F] (number : Json F → Json F → Bool)
  {discloses : String → Bool} (authenticationKey : List UInt8) (recursionLimit : Nat)
  (tooDeep : List Char → Bool)
  (reflexive : ∀ value, printable maxIntegerDigits value = true → number value value = true)
  (shallow : ∀ value : Json F, checkJsonBounds value = true →
    tooDeep (render (JsonValue.normalize value)) = false)

section

variable (entry : Members F) (message : String) (bytes : List UInt8)
  (distinct : DistinctKeys (.obj entry))
  (serialized : serialize recursionLimit entry message = .ok bytes)

include distinct serialized

include shallow in
theorem load_within (within : checkJsonBounds (.obj entry) = true) :
    strictLoad tooDeep bytes = .ok (.obj (normalizeMembers entry)) := by
  obtain ⟨encodable, short, rfl⟩ := (serialize_ok _ _ _ _).mp serialized
  have printed := (Bool.and_eq_true_iff.mp encodable).1
  rw [strict_load_canonical tooDeep _ printed distinct short, shallow _ within,
    if_neg Bool.false_ne_true, if_pos within]
  rfl

theorem load_without (without : ¬ checkJsonBounds (.obj entry) = true) :
    ∃ unread, strictLoad (F := F) tooDeep bytes = .error unread := by
  obtain ⟨encodable, short, rfl⟩ := (serialize_ok _ _ _ _).mp serialized
  have printed := (Bool.and_eq_true_iff.mp encodable).1
  rw [strict_load_canonical tooDeep _ printed distinct short, if_neg without]
  split
  · exact ⟨_, rfl⟩
  · exact ⟨_, rfl⟩

end

omit [FloatText F] [LawfulFloatText F] in
theorem loaded_value (value : Json F) :
    (Except.ok value : Except Unread (Json F)).toOption = some value := rfl

include reflexive shallow in
theorem growth_read_iff (held : Option String) (put : GrowthPut (F := F) discloses)
    (world after : World)
    (stored : put_ number authenticationKey recursionLimit held put world = .ok true after) :
    authenticatedSnapshot number discloses authenticationKey tooDeep after.directory put.key
        put.identity = some put.snapshot ↔
      checkJsonBounds (.obj (put.entry authenticationKey)) = true := by
  have left := (returns_put number authenticationKey recursionLimit held put :
    Returns _ world.history _) world.outcomes
  obtain ⟨checked, published⟩ := Steps.leaves_ok _ _ _ _ _ _ left stored rfl
  obtain ⟨bytes, serialized, stands⟩ := published.stored
  have safe := growth_safe number put checked
  have distinct : DistinctKeys (.obj (put.entry authenticationKey)) :=
    sealed_distinct (entryHmac authenticationKey) put.stable (growth_sealable put)
  have printed := (Bool.and_eq_true_iff.mp ((serialize_ok _ _ _ _).mp serialized).1).1
  have read : authenticatedSnapshot number discloses authenticationKey tooDeep after.directory
      put.key put.identity =
        strictGrowthEntry number discloses authenticationKey tooDeep put.key put.identity bytes := by
    have found : after.directory.lookup (put.key ++ ".json") = some ⟨bytes, true⟩ := stands
    simp [authenticatedSnapshot, safe, readPrivateRegularFile, found, guard]
  rw [read, strictGrowthEntry]
  constructor
  · intro found
    by_contra without
    obtain ⟨unread, load⟩ := load_without recursionLimit tooDeep _ _ _ distinct serialized without
    rw [load] at found
    cases found
  · intro within
    rw [load_within recursionLimit tooDeep shallow _ _ _ distinct serialized within, loaded_value,
      Option.bind_some]
    exact growth_own number authenticationKey reflexive put checked printed

include reflexive shallow in
theorem auth_read_iff (held : Option String) (put : AuthPut F) (world after : World)
    (stored : putAuthRecord authenticationKey recursionLimit held put world = .ok true after) :
    getAuthRecord number authenticationKey tooDeep after.directory put.key put.identity =
        .ok (some put.record) ↔ checkJsonBounds (.obj (put.entry authenticationKey)) = true := by
  have left := (returns_putAuthRecord authenticationKey recursionLimit held put :
    Returns _ world.history _) world.outcomes
  obtain ⟨checked, published⟩ := Steps.leaves_ok _ _ _ _ _ _ left stored rfl
  obtain ⟨bytes, serialized, stands⟩ := published.stored
  have safe := auth_safe put checked
  have distinct : DistinctKeys (.obj (put.entry authenticationKey)) :=
    sealed_distinct (authHmac authenticationKey) put.stable (auth_sealable put)
  have printed := (Bool.and_eq_true_iff.mp ((serialize_ok _ _ _ _).mp serialized).1).1
  have found : after.directory.lookup ("auth-" ++ put.key ++ ".json") = some ⟨bytes, true⟩ := stands
  have file : readPrivateRegularFile after.directory ("auth-" ++ put.key ++ ".json") = some bytes := by
    simp [readPrivateRegularFile, found, guard]
  rw [getAuthRecord, if_pos safe, file]
  dsimp only
  rw [strictAuthRecord]
  constructor
  · intro found
    by_contra without
    obtain ⟨unread, load⟩ := load_without recursionLimit tooDeep _ _ _ distinct serialized without
    rw [load] at found
    generalize put.record = record at found
    cases unread <;> cases found
  · intro within
    have inside : ("identity", Json.obj put.identity.val) ∈ put.stable := by simp [AuthPut.stable]
    have identityPrinted := (JsonRoundTrip.printableMembers_iff _ _).mp printed
      ("identity", .obj put.identity.val) (List.mem_append_left _ (List.mem_append_left _ inside))
    have same := equal_self number reflexive _ identityPrinted put.identity.property
    rw [equal_normalize number _ _ put.identity.property] at same
    rw [load_within recursionLimit tooDeep shallow _ _ _ distinct serialized within]
    exact congrArg Except.ok (auth_own number authenticationKey put checked printed put.identity same)

section

variable (signed : Signed F discloses) (content : List UInt8) (key : String) (identity : Dict F)

def SameIdentity (left right : Dict F) : Prop :=
  JsonValue.normalize (.obj left.val) = JsonValue.normalize (.obj right.val)

/-- The file says what was signed as a Growth entry with this key and this identity. -/
def GrowthGenuine : Prop :=
  ∃ put ∈ signed.growth, put.key = key ∧ SameIdentity put.identity identity ∧
    Says tooDeep content (put.entry authenticationKey)

def AuthGenuine : Prop := ∃ put ∈ signed.auth, put.key = key ∧ SameIdentity put.identity identity ∧
    Says tooDeep content (put.entry authenticationKey)

/-- The file says what was signed as an Auth entry with this key, and with an identity that only
Python holds to be equal. -/
def AuthEqual : Prop := ∃ put ∈ signed.auth, put.key = key ∧
    equal number (.obj put.identity.val) (.obj identity.val) = true ∧
    Says tooDeep content (put.entry authenticationKey)

theorem growth_rejects (trusted : Trusted authenticationKey tooDeep signed content)
    (collisionFree : ∀ put ∈ signed.growth, CollisionFree (canonicalJson (.obj identity.val))
      (canonicalJson (.obj put.identity.val)))
    (forged : ¬ GrowthGenuine authenticationKey tooDeep signed content key identity) :
    strictGrowthEntry number discloses authenticationKey tooDeep key identity content = none := by
  cases read : strictGrowthEntry number discloses authenticationKey tooDeep key identity content with
  | none => rfl
  | some snapshot =>
    obtain ⟨put, member, keySame, identitySame, _, spoken⟩ := growth_authentic number
      authenticationKey tooDeep signed content trusted key identity snapshot collisionFree read
    exact absurd ⟨put, member, keySame, identitySame, spoken⟩ forged

theorem auth_rejects_iff (trusted : Trusted authenticationKey tooDeep signed content) :
    strictAuthRecord number authenticationKey tooDeep key identity content = .ok none ↔
      strictLoad (F := F) tooDeep content ≠ .error .recursion ∧
        ¬ AuthEqual number authenticationKey tooDeep signed content key identity := by
  constructor
  · intro missed
    constructor
    · intro deep
      rw [strictAuthRecord, deep] at missed
      cases missed
    · intro equal_
      obtain ⟨put, member, keySame, identitySame, raw, load, members⟩ := equal_
      have distinct := strict_load_distinct tooDeep content _ load
      have own := auth_own number authenticationKey put (signed.authChecked put member)
        (sealed_printed _ _ (signed.authPrinted put member)) identity identitySame
      rw [keySame, ← members, auth_record_normalize number authenticationKey key identity raw
        distinct] at own
      rw [strictAuthRecord, load] at missed
      rw [Except.ok.inj missed] at own
      cases own
  · intro fine
    cases read : strictAuthRecord number authenticationKey tooDeep key identity content with
    | error unread =>
      unfold strictAuthRecord at read
      split at read
      · rename_i deep
        exact absurd deep fine.1
      · cases read
      · cases read
    | ok result =>
      cases result with
      | none => rfl
      | some record =>
        obtain ⟨put, member, keySame, identitySame, _, spoken⟩ := auth_authentic number
          authenticationKey tooDeep signed content trusted key identity record read
        exact absurd ⟨put, member, keySame, identitySame, spoken⟩ fine.2

end

/-- What a put stores is read back where its entry is within the reader's own bounds. A Growth
entry is read of no file but a signed one, under its key and for its identity; an Auth record may
be read for an identity that Python holds to be equal, and the reader may run out of recursion. -/
theorem entries_stand_iff
    (reflexive : ∀ value, printable maxIntegerDigits value = true → number value value = true)
    (shallow : ∀ value : Json F, checkJsonBounds value = true →
      tooDeep (render (JsonValue.normalize value)) = false) :
    (∀ (held : Option String) (put : GrowthPut (F := F) discloses) (world after : World),
      put_ number authenticationKey recursionLimit held put world = .ok true after →
        (authenticatedSnapshot number discloses authenticationKey tooDeep after.directory put.key
            put.identity = some put.snapshot ↔
          checkJsonBounds (.obj (put.entry authenticationKey)) = true)) ∧
    (∀ (held : Option String) (put : AuthPut F) (world after : World),
      putAuthRecord authenticationKey recursionLimit held put world = .ok true after →
        (getAuthRecord number authenticationKey tooDeep after.directory put.key put.identity =
            .ok (some put.record) ↔ checkJsonBounds (.obj (put.entry authenticationKey)) = true)) ∧
    ∀ (signed : Signed F discloses) (content : List UInt8) (key : String) (identity : Dict F),
      Trusted authenticationKey tooDeep signed content →
        ((∀ put ∈ signed.growth, CollisionFree (canonicalJson (.obj identity.val))
            (canonicalJson (.obj put.identity.val))) →
          ¬ GrowthGenuine authenticationKey tooDeep signed content key identity →
            strictGrowthEntry number discloses authenticationKey tooDeep key identity content =
              none) ∧ (¬ AuthGenuine authenticationKey tooDeep signed content key identity →
          (strictAuthRecord number authenticationKey tooDeep key identity content = .ok none ↔
            strictLoad (F := F) tooDeep content ≠ .error .recursion ∧
              ¬ AuthEqual number authenticationKey tooDeep signed content key identity)) := by
  refine ⟨?_, ?_, ?_⟩
  · intro held put world after stored
    exact growth_read_iff number authenticationKey recursionLimit tooDeep reflexive shallow held put
      world after stored
  · intro held put world after stored
    exact auth_read_iff number authenticationKey recursionLimit tooDeep reflexive shallow held put
      world after stored
  · intro signed content key identity trusted
    constructor
    · intro collisionFree forged
      exact growth_rejects number authenticationKey tooDeep signed content key identity trusted
        collisionFree forged
    · intro _
      exact auth_rejects_iff number authenticationKey tooDeep signed content key identity trusted

end

def numberValue : PlainJson → Option Int
  | .bool value => some (if value then 1 else 0)
  | .int value => some value
  | _ => none

def plainNumber (left right : PlainJson) : Bool := numberValue left = numberValue right

def sampleWorld : World := begun (crowded []) (List.replicate 15 (.works 0) ++ [.works 0, .works 0])

theorem sample_stored (size : Nat) (fits : size + 415 ≤ maxCacheBytes) :
    ∃ after, putAuthRecord [] 1000 none (samplePut size : AuthPut Empty) sampleWorld =
      .ok true after := by
  have length := sample_size (F := Empty) [] size
  have filled : canonicalJson (.obj ((samplePut size : AuthPut Empty).entry [])) ≠ [] := by
    intro empty
    rw [empty, List.length_nil] at length
    omega
  obtain ⟨linked, reached, stands, _⟩ := crowded_record [] [.works 0, .works 0] [] 1000
    (samplePut size : AuthPut Empty) _ rfl (sample_checked size) (sample_serialized [] size fits _)
    filled (by decide)
  have inside : sampleTemporary ∈ linked.directory := by
    rw [stands, AList.mem_insert, AList.mem_insert]
    exact Or.inr (Or.inl rfl)
  have removed : unlink sampleTemporary ⟨linked, [.works 0, .works 0]⟩ =
      .ok () ⟨linked.move (linked.directory.erase sampleTemporary), [.works 0]⟩ := by
    rw [unlink, attempt_works]
    simp only [act, World.directory, inside, if_true]
    rfl
  refine ⟨⟨linked.move (linked.directory.erase sampleTemporary), []⟩, ?_⟩
  unfold sampleWorld
  rw [reached, covered, finish, onOsError, run_bind _ removed]
  rfl

theorem digest_bytes (bytes : List UInt8) : byteLength (Sha256.hexdigest bytes) = 64 := by
  have plain : ∀ c ∈ "0123456789abcdef".toList, c.toNat < 128 := by simp
  rw [byteLength, Text.utf8_length_ascii, String.length_toList, Sha256.hexdigest_length]
  exact fun c inside => plain c (Sha256.hexdigest_digits bytes c inside)

theorem note_bytes (size : Nat) : byteLength (String.ofList (List.replicate size 'a')) = size := by
  rw [byteLength, Text.utf8_length_ascii, String.toList_ofList, List.length_replicate]
  intro c inside
  rw [String.toList_ofList] at inside
  rw [List.eq_of_mem_replicate inside]
  decide

theorem sample_bounds (size : Nat) :
    checkJsonBounds (.obj ((samplePut size : AuthPut Empty).entry [])) =
      decide (size ≤ maxRawResponseBytes) := by
  have texts : ∀ text ∈ ["", "initial", "grok-4.6", authCacheFormat, responseSchemaVersion,
      sampleKey], byteLength text ≤ maxRawResponseBytes := by decide
  have digests (bytes : List UInt8) : byteLength (Sha256.hexdigest bytes) ≤ maxRawResponseBytes := by
    rw [digest_bytes]
    decide
  simp only [List.forall_mem_cons, List.not_mem_nil, false_imp_iff, implies_true, and_true] at texts
  simp [checkJsonBounds, AuthPut.entry, withHmac, withHash, AuthPut.stable, samplePut, spread,
    spreadMembers, nodeWithin, maxJsonDepth, maxCacheCollection, maxCacheJsonNodes, authHmac,
    Hmac.hexdigest, sha256CanonicalJson, digests, note_bytes, texts]

def sampleSigned : Signed Empty silent where
  growth := []
  auth := [samplePut 1]
  requestIds := []
  growthPrinted := List.forall_mem_nil _
  authPrinted := by
    simp [AuthPut.stable, samplePut, printable, printableMembers]
  authChecked := by
    simpa using sample_checked 1

def forged : Members Empty := [("entry_hmac", .str "forged")]

def forgedFile : List UInt8 := canonicalJson (.obj forged)

theorem forged_loads : strictLoad (fun _ => false) forgedFile = .ok (.obj forged) := by
  have distinct : DistinctKeys (.obj forged) := by simp [forged, DistinctKeys, DistinctMembers]
  rw [forgedFile, strict_load_canonical _ _ (by decide) distinct (by decide)]
  rfl

/-- A record is stored and read back, and a file with a forged code is read by neither reader under
the key and the identity of what was signed. -/
theorem sample_entries_stand :
    (∃ after, putAuthRecord [] 1000 none (samplePut 1 : AuthPut Empty) sampleWorld = .ok true after ∧
      getAuthRecord plainNumber [] (fun _ => false) after.directory sampleKey
        (samplePut 1 : AuthPut Empty).identity = .ok (some (samplePut 1).record)) ∧
      strictGrowthEntry plainNumber silent [] (fun _ => false) sampleKey
        (samplePut 1 : AuthPut Empty).identity forgedFile = none ∧
      strictAuthRecord plainNumber [] (fun _ => false) sampleKey
        (samplePut 1 : AuthPut Empty).identity forgedFile = .ok none := by
  have stand := @entries_stand_iff Empty _ _ plainNumber silent [] 1000 (fun _ => false)
    (by simp [plainNumber]) (fun _ _ => rfl)
  have trusted : Trusted [] (fun _ => false) sampleSigned forgedFile := by
    intro raw code load held
    rw [forged_loads] at load
    cases load
    cases held
    have short (message : List UInt8) : Hmac.Unforged [] sampleSigned.messages message "forged" := by
      intro same
      have length := Sha256.hexdigest_length
        ((Hmac.block []).map (· ^^^ 0x5c) ++ Hmac.digest ((Hmac.block []).map (· ^^^ 0x36) ++ message))
      rw [← Hmac.hexdigest, same] at length
      exact absurd length (by decide)
    exact ⟨short _, short _⟩
  have unsaid (put : AuthPut Empty) : ¬ Says (fun _ => false) forgedFile (put.entry []) := by
    rintro ⟨raw, load, same⟩
    rw [forged_loads] at load
    cases load
    have fields := congrArg fieldSet same
    rw [field_set_normalize, field_set_normalize, auth_fields] at fields
    exact absurd fields (by decide)
  have rejects := stand.2.2 sampleSigned forgedFile sampleKey (samplePut 1 : AuthPut Empty).identity
    trusted
  refine ⟨?_, rejects.1 (List.forall_mem_nil _) ?_, (rejects.2 ?_).mpr ⟨?_, ?_⟩⟩
  · obtain ⟨after, stored⟩ := sample_stored 1 (by decide)
    refine ⟨after, stored, (stand.2.1 none (samplePut 1) sampleWorld after stored).mpr ?_⟩
    rw [sample_bounds]
    decide
  · rintro ⟨_, signed, _⟩
    exact List.not_mem_nil signed
  · rintro ⟨put, -, -, -, spoken⟩
    exact unsaid put spoken
  · rw [forged_loads]
    intro raised
    cases raised
  · rintro ⟨put, -, -, -, spoken⟩
    exact unsaid put spoken

/-- A record is published that no reader accepts. -/
theorem published_record_unread :
    ∃ after, putAuthRecord [] 1000 none (samplePut 200000 : AuthPut Empty) sampleWorld =
        .ok true after ∧ getAuthRecord plainNumber [] (fun _ => false) after.directory sampleKey
        (samplePut 200000 : AuthPut Empty).identity ≠ .ok (some (samplePut 200000).record) := by
  obtain ⟨after, stored⟩ := sample_stored 200000 (by decide)
  refine ⟨after, stored, fun found => ?_⟩
  have within := (auth_read_iff plainNumber [] 1000 (fun _ => false) (by simp [plainNumber])
    (fun _ _ => rfl) none (samplePut 200000) sampleWorld after stored).mp found
  rw [sample_bounds] at within
  exact absurd within (by decide)

end DosWeb.Llm.Cache
