import DosWeb.Library.Traces
import DosWeb.Llm.Transmission

/-!
A call posts at most twice as often as it may try a prompt, posts what it has scanned, corrects
what was rejected and stores what was checked.
-/

namespace DosWeb.Llm

open Library.JsonText Library.Steps Library.Traces Growth

theorem leaves_record {β : Type} (event : Event) (events : List Event) (next : Unit → Calling β)
    (done : β → List Event → Prop) (broken : Raised → List Event → Prop)
    (follows : Leaves (next ()) (events ++ [event]) done broken) :
    Leaves (record event >>= next) events done broken := follows

section

variable (provider : Nat → Transmission) (apiKey : String) (variant : PromptVariant) (body : String)

def PostsMore (count : Nat) (before after : List Event) : Prop :=
  ∃ posts, after = before ++ posts ∧ posts.length ≤ count ∧
    ∀ event ∈ posts, ∃ outcome, event = .posted variant body outcome

theorem posts_leaves (attempts : Nat) (details : List (String × PlainJson)) (events : List Event) :
    Leaves (postWithRetries provider apiKey variant body attempts details) events
      (fun reply after => PostsMore variant body attempts events after ∧
        .posted variant body (.ok reply) ∈ after)
      (fun raised after => PostsMore variant body attempts events after ∧
        ((∃ last, raised = retriesExhausted last) ∨
          .posted variant body (.error raised) ∈ after)) := by
  induction attempts generalizing details events with
  | zero =>
    refine leaves_throw _ _ _ _ ⟨⟨[], (List.append_nil _).symm, Nat.zero_le _, ?_⟩, Or.inl ⟨_, rfl⟩⟩
    exact fun event member => absurd member List.not_mem_nil
  | succ attempts ih =>
    unfold postWithRetries
    refine leaves_get ?_
    generalize postOnce (provider (events.countP Event.isPost)) = outcome
    refine leaves_record _ _ _ _ _ ?_
    have one : PostsMore variant body (attempts + 1) events
        (events ++ [.posted variant body outcome]) := by
      refine ⟨_, rfl, by simp, fun event member => ?_⟩
      exact ⟨outcome, List.mem_singleton.mp member⟩
    have listed : Event.posted variant body outcome ∈ events ++ [.posted variant body outcome] :=
      List.mem_append_right _ (.head _)
    cases outcome with
    | ok reply => exact leaves_pure _ _ _ _ ⟨one, listed⟩
    | error raised =>
      dsimp only
      cases again : retryable raised with
      | none => exact leaves_throw _ _ _ _ ⟨one, Or.inr listed⟩
      | some more =>
        have grow : ∀ after, PostsMore variant body attempts
            (events ++ [.posted variant body (.error raised)]) after →
            PostsMore variant body (attempts + 1) events after := by
          rintro after ⟨posts, rfl, few, each⟩
          refine ⟨.posted variant body (.error raised) :: posts, by simp, by simpa using few,
            fun event member => ?_⟩
          rcases List.mem_cons.mp member with rfl | later
          · exact ⟨_, rfl⟩
          · exact each event later
        exact leaves_mono (ih more _) (fun _ _ held => ⟨grow _ held.1, held.2⟩)
          fun _ _ held => ⟨grow _ held.1, held.2⟩

example : postWithRetries (fun _ => .network true) "key" .initial "body" 2 [] [] =
    .error (retriesExhausted []) [.posted .initial "body" (postOnce (.network true)),
      .posted .initial "body" (postOnce (.network true))] := rfl

end

section

variable {F : Type} [FloatText F] (client : Client F) (slice : PromptSlice)

def Allowed (before : List Event) : Event → Prop
  | .scanned body =>
    scanTransmittedRequest F client.requestScreen client.config.apiKey body = .ok ()
  | .posted variant body _ =>
    scanTransmittedRequest F client.requestScreen client.config.apiKey body = .ok () ∧
      .scanned body ∈ before ∧
      (variant = .correction → ∃ first reply raised, .posted .initial first reply ∈ before ∧
        reply.bind (acceptReply client slice .initial) = .error raised ∧ correctable raised = true)
  | .stored snapshot =>
    ∃ body reply, .posted snapshot.acceptedPromptVariant body (.ok reply) ∈ before ∧
      acceptReply client slice snapshot.acceptedPromptVariant reply = .ok snapshot

structure Within (count : Nat) (events : List Event) : Prop where
  justified : Justified (Allowed client slice) events
  posts : events.countP Event.isPost ≤ count

theorem within_posts (variant : PromptVariant) (body : String) (count more : Nat)
    (before after : List Event) (within : Within client slice count before)
    (allowed : ∀ outcome, Allowed client slice before (.posted variant body outcome))
    (posts : PostsMore variant body more before after) :
    Within client slice (count + more) after := by
  obtain ⟨added, rfl, few, each⟩ := posts
  constructor
  · apply justified_append
    · exact within.justified
    · intro event member rest
      obtain ⟨outcome, rfl⟩ := each event member
      obtain ⟨scanned, listed, corrected⟩ := allowed outcome
      refine ⟨scanned, List.mem_append_left _ listed, fun second => ?_⟩
      obtain ⟨first, reply, raised, posted, rejected⟩ := corrected second
      exact ⟨first, reply, raised, List.mem_append_left _ posted, rejected⟩
  · rw [List.countP_append]
    have own := List.countP_le_length (p := Event.isPost) (l := added)
    have start := within.posts
    omega

variable (surroundings : Surroundings)

/-- An attempt keeps the trace within its posts; what it accepts or rejects, it was replied. -/
theorem attempt_leaves (variant : PromptVariant) (body : String) (events : List Event) :
    Leaves (attemptReply client slice surroundings variant body) events
      (fun result after => PostsMore variant body client.config.maxRetries.toNat events after ∧
        (∀ snapshot, result = .ok snapshot → ∃ reply, .posted variant body (.ok reply) ∈ after ∧
          acceptReply client slice variant reply = .ok snapshot) ∧
        ∀ raised, result = .error raised → correctable raised = true →
          ∃ reply, .posted variant body reply ∈ after ∧
            reply.bind (acceptReply client slice variant) = .error raised)
      (fun _ _ => False) := by
  unfold attemptReply
  refine leaves_bind _ (leaves_captured _ _ (fun reply after =>
    PostsMore variant body client.config.maxRetries.toNat events after ∧
      ((∃ last, reply = .error (retriesExhausted last)) ∨
        .posted variant body reply ∈ after)) _ ?_) ?_
  · refine leaves_mono (posts_leaves _ _ variant body _ _ events) ?_ ?_
    · rintro reply after ⟨posts, listed⟩
      exact ⟨posts, Or.inr listed⟩
    · rintro raised after ⟨posts, ⟨last, rfl⟩ | listed⟩
      · exact ⟨posts, Or.inl ⟨last, rfl⟩⟩
      · exact ⟨posts, Or.inr listed⟩
  · rintro reply after ⟨posts, ended⟩
    refine leaves_pure _ _ _ _ ⟨posts, ?_, ?_⟩
    · intro snapshot accepted
      rcases ended with ⟨last, rfl⟩ | listed
      · cases accepted
      · cases reply with
        | error raised => cases accepted
        | ok reply => exact ⟨reply, listed, accepted⟩
    · intro raised rejected corrects
      rcases ended with ⟨last, rfl⟩ | listed
      · cases rejected
        cases corrects
      · exact ⟨reply, listed, rejected⟩

theorem scan_leaves (body : String) (count : Nat) (events : List Event)
    (within : Within client slice count events) : Leaves (scanRequest client body) events
      (fun _ after => Within client slice count after ∧ (∀ event ∈ events, event ∈ after) ∧
        .scanned body ∈ after ∧
        scanTransmittedRequest F client.requestScreen client.config.apiKey body = .ok ())
      (fun _ after => Within client slice count after) := by
  refine leaves_bind (fun _ after => after = events ∧
    scanTransmittedRequest F client.requestScreen client.config.apiKey body = .ok ()) ?_ ?_
  · refine leaves_except (fun _ passed => ⟨rfl, passed⟩) fun _ _ => within
  · rintro _ _ ⟨rfl, passed⟩
    refine leaves_modify _ _ _ _ ⟨⟨?_, ?_⟩, ?_, ?_, passed⟩
    · exact justified_snoc _ _ _ within.justified passed
    · rw [List.countP_append]
      exact within.posts
    · exact fun event member => List.mem_append_left _ member
    · exact List.mem_append_right _ (.head _)

def Replied (snapshot : GrowthCacheSnapshot) (events : List Event) : Prop :=
  ∃ body reply, .posted snapshot.acceptedPromptVariant body (.ok reply) ∈ events ∧
    acceptReply client slice snapshot.acceptedPromptVariant reply = .ok snapshot

theorem accepted_variant (variant : PromptVariant) (reply : ProviderReply)
    (snapshot : GrowthCacheSnapshot)
    (accepted : acceptReply client slice variant reply = .ok snapshot) :
    snapshot.acceptedPromptVariant = variant := by
  simp only [acceptReply, bind_ok] at accepted
  obtain ⟨response, -, contract, -, same⟩ := accepted
  cases same
  rfl

theorem replies_leave (body : String) (events : List Event)
    (within : Within client slice 0 events) (scanned : .scanned body ∈ events)
    (passed : scanTransmittedRequest F client.requestScreen client.config.apiKey body = .ok ()) :
    Leaves (growthReplies client slice surroundings body) events
      (fun snapshot after => Within client slice (2 * client.config.maxRetries.toNat) after ∧
        Replied client slice snapshot after)
      (fun _ after => Within client slice (2 * client.config.maxRetries.toNat) after) := by
  have wider : ∀ (count : Nat) (after : List Event), Within client slice count after →
      count ≤ 2 * client.config.maxRetries.toNat →
      Within client slice (2 * client.config.maxRetries.toNat) after :=
    fun count after held few => ⟨held.justified, held.posts.trans few⟩
  unfold growthReplies
  refine leaves_then (attempt_leaves client slice surroundings .initial body events)
    (fun _ _ never => never.elim) ?_
  rintro result first ⟨posts, accepts, rejects⟩
  have one := within_posts client slice .initial body 0 _ events first within
    (fun outcome => ⟨passed, scanned, fun second => by cases second⟩) posts
  cases result with
  | ok snapshot =>
    obtain ⟨reply, listed, accepted⟩ := accepts snapshot rfl
    refine leaves_pure _ _ _ _ ⟨wider _ _ one (by omega), body, reply, ?_⟩
    rw [accepted_variant client slice .initial reply snapshot accepted]
    exact ⟨listed, accepted⟩
  | error raised =>
    dsimp only
    by_cases corrects : correctable raised = true
    · rw [if_pos corrects]
      obtain ⟨reply, listed, rejected⟩ := rejects raised rfl corrects
      refine leaves_bind (fun _ after => first = after) (leaves_except
        (fun _ _ => rfl) fun _ _ => wider _ _ one (by omega)) ?_
      rintro correction _ rfl
      refine leaves_then (scan_leaves client slice correction _ first one)
        (fun _ _ held => wider _ _ held (by omega)) ?_
      rintro _ second ⟨scannedToo, kept, listedToo, passedToo⟩
      refine leaves_then (attempt_leaves client slice surroundings .correction correction second)
        (fun _ _ never => never.elim) ?_
      rintro answer third ⟨more, acceptsToo, -⟩
      have two := within_posts client slice .correction correction _ _ second third scannedToo
        (fun outcome => ⟨passedToo, listedToo, fun _ =>
          ⟨body, reply, raised, kept _ listed, rejected, corrects⟩⟩) more
      cases answer with
      | ok snapshot =>
        obtain ⟨final, listedFinal, accepted⟩ := acceptsToo snapshot rfl
        refine leaves_pure _ _ _ _ ⟨wider _ _ two (by omega), correction, final, ?_⟩
        rw [accepted_variant client slice .correction final snapshot accepted]
        exact ⟨listedFinal, accepted⟩
      | error last => exact leaves_throw _ _ _ _ (wider _ _ two (by omega))
    · rw [if_neg corrects]
      exact leaves_throw _ _ _ _ (wider _ _ one (by omega))

theorem publish_leaves (authenticated : Bool) (snapshot : GrowthCacheSnapshot) (count : Nat)
    (events : List Event) (within : Within client slice count events)
    (replied : Replied client slice snapshot events) :
    Leaves (publish surroundings authenticated snapshot) events
      (fun _ after => Within client slice count after)
      (fun _ after => Within client slice count after) := by
  have stored : Within client slice count (events ++ [.stored snapshot]) := by
    refine ⟨justified_snoc _ _ _ within.justified replied, ?_⟩
    rw [List.countP_append]
    exact within.posts
  unfold publish
  cases authenticated with
  | true => exact leaves_pure _ _ _ _ within
  | false =>
    refine leaves_record _ _ _ _ _ ?_
    split
    · exact leaves_pure _ _ _ _ stored
    · exact leaves_throw _ _ _ _ stored

theorem owned_leaves (body : String) (events : List Event)
    (within : Within client slice 0 events) (scanned : .scanned body ∈ events)
    (passed : scanTransmittedRequest F client.requestScreen client.config.apiKey body = .ok ()) :
    Leaves (ownedCall client slice surroundings body) events
      (fun _ after => Within client slice (2 * client.config.maxRetries.toNat) after)
      (fun _ after => Within client slice (2 * client.config.maxRetries.toNat) after) := by
  have start : Within client slice (2 * client.config.maxRetries.toNat) events :=
    ⟨within.justified, within.posts.trans (Nat.zero_le _)⟩
  have same : ∀ {α : Type} (computation : Checked α), Leaves (fromExcept computation) events
      (fun _ after => events = after)
      (fun _ after => Within client slice (2 * client.config.maxRetries.toNat) after) :=
    fun computation => leaves_except (fun _ _ => rfl) fun _ _ => start
  unfold ownedCall
  refine leaves_bind _ (same _) ?_
  rintro available _ rfl
  refine leaves_bind _ (same _) ?_
  rintro found _ rfl
  cases found with
  | some snapshot => exact leaves_except (fun _ _ => start) fun _ _ => start
  | none =>
    refine leaves_bind _ (same _) ?_
    rintro authenticated _ rfl
    refine leaves_bind _ (same _) ?_
    rintro _ _ rfl
    refine leaves_bind _ (replies_leave client slice surroundings body events within
      scanned passed) ?_
    rintro snapshot after ⟨held, replied⟩
    refine leaves_bind _ (publish_leaves client slice surroundings authenticated
      snapshot _ after held replied) ?_
    intro _ last done
    exact leaves_except (fun _ _ => done) fun _ _ => done

end

variable {F : Type} [FloatText F] (client : Client F) (slice : PromptSlice)

structure Transmitted (events : List Event) : Prop where
  bounded : events.countP Event.isPost ≤ 2 * client.config.maxRetries.toNat
  scanned : ∀ before variant body outcome after,
    events = before ++ .posted variant body outcome :: after → .scanned body ∈ before ∧
      scanTransmittedRequest F client.requestScreen client.config.apiKey body = .ok ()
  corrected : ∀ before body outcome after,
    events = before ++ .posted .correction body outcome :: after →
    ∃ first reply raised, .posted .initial first reply ∈ before ∧
      reply.bind (acceptReply client slice .initial) = .error raised ∧ correctable raised = true
  checked : ∀ before snapshot after, events = before ++ .stored snapshot :: after →
    ∃ body reply, .posted snapshot.acceptedPromptVariant body (.ok reply) ∈ before ∧
      reply.body = snapshot.rawResponse ∧
      ∃ (response : CanonicalResponse F) (provider : ProviderGrowthContract)
        (bound : GrowthContract),
        canonicalResponse client.screen (client.call slice) reply = .ok response ∧
        validateProviderGrowthContract client.screen.discloses response.semantic = .ok provider ∧
        bindProviderGrowthContract provider slice.boundedSlice
          (client.payload slice snapshot.acceptedPromptVariant).factAliasToOriginal = .ok bound ∧
        validateContractStaticEvidence bound
          (slice.boundedSlice.payload.staticFacts.map StaticFact.factId) = .ok snapshot.contract

theorem accepted_checks (variant : PromptVariant) (reply : ProviderReply)
    (snapshot : GrowthCacheSnapshot)
    (accepted : acceptReply client slice variant reply = .ok snapshot) :
    reply.body = snapshot.rawResponse ∧
      ∃ (response : CanonicalResponse F) (provider : ProviderGrowthContract)
        (bound : GrowthContract),
        canonicalResponse client.screen (client.call slice) reply = .ok response ∧
        validateProviderGrowthContract client.screen.discloses response.semantic = .ok provider ∧
        bindProviderGrowthContract provider slice.boundedSlice
          (client.payload slice variant).factAliasToOriginal = .ok bound ∧
        validateContractStaticEvidence bound (slice.boundedSlice.payload.staticFacts.map
          StaticFact.factId) = .ok snapshot.contract := by
  simp only [acceptReply, contractOf, bind_ok] at accepted
  obtain ⟨response, parsed, contract, ⟨provider, valid, bound, bounded, evident⟩, same⟩ := accepted
  cases same
  exact ⟨rfl, response, provider, bound, parsed, valid, bounded, evident⟩

theorem within_transmitted (events : List Event)
    (within : Within client slice (2 * client.config.maxRetries.toNat) events) :
    Transmitted client slice events where
  bounded := within.posts
  scanned := by
    intro before variant body outcome after shape
    obtain ⟨passed, listed, -⟩ := within.justified before _ after shape
    exact ⟨listed, passed⟩
  corrected := by
    intro before body outcome after shape
    obtain ⟨-, -, rejected⟩ := within.justified before _ after shape
    exact rejected rfl
  checked := by
    intro before snapshot after shape
    obtain ⟨body, reply, listed, accepted⟩ := within.justified before _ after shape
    exact ⟨body, reply, listed, accepted_checks client slice _ reply snapshot accepted⟩

/-- However a call ends, it has posted within its budget and what it scanned, corrected what was
rejected and stored what was checked. -/
theorem classify_growth_transmits (surroundings : Surroundings) :
    Leaves (classifyGrowth client slice surroundings) [] (fun _ => Transmitted client slice)
      (fun _ => Transmitted client slice) := by
  have start : Within client slice 0 [] := ⟨justified_nil _, Nat.zero_le _⟩
  have wider : ∀ after, Within client slice 0 after → Transmitted client slice after :=
    fun after held => within_transmitted client slice after
      ⟨held.justified, held.posts.trans (Nat.zero_le _)⟩
  have done : ∀ {α : Type} (computation : Checked α) (events : List Event),
      Within client slice 0 events → Leaves (fromExcept computation) events
        (fun _ after => events = after) (fun _ => Transmitted client slice) :=
    fun computation events held =>
      leaves_except (fun _ _ => rfl) fun _ _ => wider events held
  unfold classifyGrowth
  refine leaves_bind _ (done _ [] start) ?_
  rintro _ _ rfl
  refine leaves_bind _ (done _ [] start) ?_
  rintro body _ rfl
  refine leaves_bind _ (leaves_mono (scan_leaves client slice body 0 []
    start) (fun _ _ held => held) fun _ => wider) ?_
  rintro _ events ⟨held, -, scanned, passed⟩
  refine leaves_bind _ (done _ events held) ?_
  rintro _ _ rfl
  refine leaves_bind _ (done _ events held) ?_
  rintro cached _ rfl
  cases cached with
  | some snapshot =>
    exact leaves_except (fun _ _ => wider events held) fun _ _ => wider events held
  | none =>
    exact leaves_mono (owned_leaves client slice surroundings body events held
      scanned passed) (fun _ => within_transmitted client slice)
      fun _ => within_transmitted client slice

end DosWeb.Llm
