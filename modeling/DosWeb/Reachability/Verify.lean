import DosWeb.Reachability.Deployment

/-!
The contract that local facts derive for an entry, and the decision for a contract that was
answered from outside: its context is the derived one or unknown.
-/

namespace DosWeb.Reachability

open Library Library.OrderedSet Identifiers
open Entries (AuthContext)

def authContextByFact : List ((SecurityKind × String) × AuthContext) := [
  ((.annotated, "unauthenticated_annotation"), .unauthenticated),
  ((.annotated, "low_privilege_annotation"), .lowPrivilege),
  ((.annotated, "privileged_annotation"), .privileged),
  ((.servletConstraint, "unauthenticated_constraint"), .unauthenticated),
  ((.servletConstraint, "privileged_constraint"), .privileged),
  ((.securityFilterChain, "unauthenticated_filter"), .unauthenticated),
  ((.securityFilterChain, "low_privilege_filter"), .lowPrivilege),
  ((.securityFilterChain, "privileged_filter"), .privileged),
  ((.filter, "unauthenticated_filter"), .unauthenticated),
  ((.filter, "low_privilege_filter"), .lowPrivilege), ((.filter, "privileged_filter"), .privileged),
  ((.configuration, "unauthenticated_configuration"), .unauthenticated),
  ((.configuration, "low_privilege_configuration"), .lowPrivilege),
  ((.configuration, "privileged_configuration"), .privileged)]

def authContextOrder : List AuthContext := [.unauthenticated, .lowPrivilege, .privileged]

def deploymentStatusOrder : List DeploymentStatus :=
  [.defaultEnabled, .defaultDisabled, .optional, .unknown]

def maxDecisionEvidenceIds : Nat := 32

def authContextForFact (fact : EntrySecurityFact) : Option AuthContext :=
  authContextByFact.lookup (fact.kind, fact.value)

def coverageGap (fact : EntrySecurityFact) : Bool :=
  fact.kind ≠ .deploymentGate ∧ (fact.coverage = .partialCoverage ∨ fact.coverage = .unsupported)

def supportedContext (fact : EntrySecurityFact) : Option AuthContext :=
  if fact.coverage = .complete then authContextForFact fact else none

def factIds (facts : List EntrySecurityFact) : List String := facts.map (·.factId)

def supporting (facts : List EntrySecurityFact) (context : AuthContext) : List EntrySecurityFact :=
  facts.filter fun fact => supportedContext fact = some context

def least (ids : List String) : List String := (sortedSet ids).take 1

theorem mem_least (ids : List String) (id : String) (member : id ∈ least ids) : id ∈ ids :=
  (mem_sortedSet ids id).mp (List.mem_of_mem_take member)

theorem fact_id_valid (fact : EntrySecurityFact) : validId fact.factId "security:" = true := by
  have plain := stable_identifier_plain "security" (securityIdentity fact.entryId fact.kind
    fact.location fact.line fact.value fact.coverage) (by decide)
  rw [← fact.factIdCanonical] at plain
  have filled : fact.factId ≠ "" := Text.startsWith_nonempty _ _ (by decide) fact.fact_id_starts
  have short : (Text.utf8 fact.factId.toList).length ≤ maxText := plain.2.trans (by decide)
  simp [validId, validText, filled, plain.1, short, fact.fact_id_starts]

/-- The contract that the least of the supporting facts gives. -/
def AuthContract.ofFacts (context : AuthContext) (evidence : List EntrySecurityFact) :
    AuthContract where
  authContext := context
  evidenceIds := least (factIds evidence)
  assumptions := []
  confidence := .high
  evidenceBounded := (List.length_take_le 1 _).trans (by decide)
  assumptionsBounded := by decide
  evidenceDistinct := (sortedSet_nodup _).sublist (List.take_sublist 1 _)
  evidenceValid := by
    intro id member
    obtain ⟨fact, -, rfl⟩ := List.mem_map.mp (mem_least _ _ member)
    exact fact_id_valid fact
  assumptionsValid := nofun

def deriveAuthContractFromFacts (entryId : String) (facts : List EntrySecurityFact) :
    Option AuthContract :=
  let own := facts.filter fun fact => fact.entryId = entryId
  if own.any coverageGap then none
  else (onlyElement (own.filterMap supportedContext)).map fun context =>
    .ofFacts context (supporting own context)

/-- Representatives of the gaps, contexts and statuses first, then the cited facts. -/
def boundedDecisionEvidence (authCoverageGapIds : List String)
    (authEvidence : AuthContext → List String) (deploymentEvidence : DeploymentStatus → List String)
    (citedEvidenceIds : List String) : List String :=
  let prioritized := least authCoverageGapIds ++
    authContextOrder.flatMap (fun context => least (authEvidence context)) ++
    deploymentStatusOrder.flatMap (fun status => least (deploymentEvidence status)) ++
    citedEvidenceIds.insertionSort (· ≤ ·)
  sortedSet (prioritized.eraseDups.take maxDecisionEvidenceIds)

def indexed : List EntrySecurityFact → List EntrySecurityFact
  | [] => []
  | fact :: rest =>
    if rest.any fun later => later.factId = fact.factId then indexed rest
    else fact :: indexed rest

def indexedFact (facts : List EntrySecurityFact) (id : String) : Option EntrySecurityFact :=
  (indexed facts).find? fun fact => fact.factId = id

def citesOutside : Raised := .analyzer ⟨"LLM_RESPONSE_SCHEMA_INVALID",
    "Auth Contract cites a fact outside its bounded security slice.", []⟩

section

variable (lower : String → String) (repr : AuthContract → String) (entryId : String)
  (contract : AuthContract) (facts : List EntrySecurityFact) (sliceFactIds : List String)
  (configurationFacts : List ModeledConfigurationFact)

/-- Every cited fact is in the slice and belongs to the entry. -/
def citesInside : Bool := contract.evidenceIds.all fun id => id ∈ sliceFactIds &&
    (indexedFact facts id).any fun fact => fact.entryId = entryId

def sliceFacts : List EntrySecurityFact :=
  (indexed facts).filter fun fact => fact.entryId = entryId ∧ fact.factId ∈ sliceFactIds

def citedSupports (context : AuthContext) : Bool :=
  (contract.evidenceIds.filterMap (indexedFact facts)).any fun fact =>
    supportedContext fact = some context

def authConflict : Bool :=
  1 < ((sliceFacts entryId facts sliceFactIds).filterMap supportedContext).dedup.length

def authCoverageGaps : List EntrySecurityFact :=
  (sliceFacts entryId facts sliceFactIds).filter coverageGap

/-- What the citations leave of the context that the contract claims. -/
def claimedContext : AuthContext :=
  if contract.authContext = .unauthenticated ∨ contract.authContext = .lowPrivilege then
    if citedSupports contract facts contract.authContext then contract.authContext else .unknown
  else if contract.authContext = .privileged then
    if citedSupports contract facts .privileged then .privileged else .unknown
  else .unknown

def verifiedContext : AuthContext :=
  if authConflict entryId facts sliceFactIds ∨ authCoverageGaps entryId facts sliceFactIds ≠ [] then
    .unknown
  else claimedContext contract facts

def deploymentFacts : List EntrySecurityFact :=
  (sliceFacts entryId facts sliceFactIds).filter fun fact => fact.kind = .deploymentGate

def deploymentEvidence (status : DeploymentStatus) : List String :=
  factIds ((deploymentFacts entryId facts sliceFactIds).filter fun fact =>
    fact.coverage = .complete ∧ resolveDeploymentStatus lower configurationFacts [fact] = status)

def decidedStatus (gap : Bool) (context : AuthContext) (deployment : DeploymentStatus) :
    ReachabilityStatus × List String :=
  if gap then (.unknown, ["REACH_AUTH_COVERAGE_PARTIAL", "REACH_AUTH_UNKNOWN"])
  else if context = .privileged then (.notEntryReachable, ["REACH_PRIVILEGED"])
  else if deployment = .defaultDisabled then (.notEntryReachable, ["REACH_DEFAULT_DISABLED"])
  else if deployment = .optional then (.notEntryReachable, ["REACH_OPTIONAL_COMPONENT"])
  else if (context = .unauthenticated ∨ context = .lowPrivilege) ∧ deployment = .defaultEnabled then
    (.ordinaryAttackerReachable, ["REACH_ORDINARY_ATTACKER"])
  else (.unknown, (if context = .unknown then ["REACH_AUTH_UNKNOWN"] else []) ++
    if deployment = .unknown then ["REACH_DEPLOYMENT_UNKNOWN"] else [])

def verifyAuthContract : Checked ReachabilityDecision := do
  require (citesInside entryId contract facts sliceFactIds) citesOutside
  let gaps := authCoverageGaps entryId facts sliceFactIds
  let context := verifiedContext entryId contract facts sliceFactIds
  let deployment := resolveDeploymentStatus lower configurationFacts
    (deploymentFacts entryId facts sliceFactIds)
  let decided := decidedStatus (gaps ≠ []) context deployment
  let reasons := decided.2 ++
    if authConflict entryId facts sliceFactIds then ["REACH_AUTH_CONFLICT"] else []
  let contractId := "auth_contract:" ++
    Sha256.hexdigest (Text.utf8 (entryId ++ repr contract).toList)
  let evidenceIds := boundedDecisionEvidence (factIds gaps)
    (fun context => factIds (supporting (sliceFacts entryId facts sliceFactIds) context))
    (deploymentEvidence lower entryId facts sliceFactIds configurationFacts) contract.evidenceIds
  ReachabilityDecision.create entryId contractId context deployment decided.1 evidenceIds
    (sortedSet reasons)

theorem indexed_mem (fact : EntrySecurityFact) (member : fact ∈ indexed facts) : fact ∈ facts := by
  induction facts with
  | nil => exact member
  | cons first rest ih =>
    unfold indexed at member
    split at member
    · exact .tail _ (ih member)
    · rcases List.mem_cons.mp member with same | later
      · exact same ▸ (.head _)
      · exact .tail _ (ih later)

theorem mem_indexed (identified : ∀ left ∈ facts, ∀ right ∈ facts,
      left.factId = right.factId → left = right) (fact : EntrySecurityFact) :
    fact ∈ indexed facts ↔ fact ∈ facts := by
  apply Iff.intro (indexed_mem facts fact)
  intro member
  induction facts with
  | nil => exact member
  | cons first rest ih =>
    have within : fact ∈ rest → fact ∈ indexed rest := ih fun left leftMember right rightMember =>
      identified left (.tail _ leftMember) right
        (.tail _ rightMember)
    unfold indexed
    split
    · rename_i repeated
      obtain ⟨later, laterMember, same⟩ := List.any_eq_true.mp repeated
      rcases List.mem_cons.mp member with here | after
      · have again : later = first := identified later (.tail _ laterMember) first
          (.head _) (of_decide_eq_true same)
        exact within (here ▸ again ▸ laterMember)
      · exact within after
    · rcases List.mem_cons.mp member with here | after
      · exact here ▸ (.head _)
      · exact .tail _ (within after)

theorem mem_slice_facts (fact : EntrySecurityFact) : fact ∈ sliceFacts entryId facts sliceFactIds ↔
      fact ∈ indexed facts ∧ fact.entryId = entryId ∧ fact.factId ∈ sliceFactIds := by
  simp [sliceFacts]

theorem claimed_context_cited (known : claimedContext contract facts ≠ .unknown) :
    claimedContext contract facts = contract.authContext ∧
      citedSupports contract facts contract.authContext = true := by
  revert known
  unfold claimedContext
  split_ifs with ordinary supported privileged supported
  · exact fun _ => ⟨rfl, supported⟩
  · exact fun known => absurd rfl known
  · exact fun _ => ⟨privileged.symm, privileged ▸ supported⟩
  · exact fun known => absurd rfl known
  · exact fun known => absurd rfl known

theorem cited_support_slice (inside : citesInside entryId contract facts sliceFactIds = true)
    (context : AuthContext) (supports : citedSupports contract facts context = true) :
    context ∈ (sliceFacts entryId facts sliceFactIds).filterMap supportedContext := by
  obtain ⟨fact, cited, supported⟩ := List.any_eq_true.mp supports
  obtain ⟨id, idCited, found⟩ := List.mem_filterMap.mp cited
  have check := List.all_eq_true.mp inside id idCited
  simp only [found, Option.any_some, Bool.and_eq_true, decide_eq_true_eq] at check
  have named := List.find?_some found
  have same : fact.factId = id := of_decide_eq_true named
  have member : fact ∈ indexed facts := List.mem_of_find?_eq_some found
  apply List.mem_filterMap.mpr
  refine ⟨fact, (mem_slice_facts _ _ _ _).mpr ⟨member, check.2, same ▸ check.1⟩, ?_⟩
  exact of_decide_eq_true supported

theorem no_conflict_only (context : AuthContext)
    (agreed : authConflict entryId facts sliceFactIds = false)
    (member : context ∈ (sliceFacts entryId facts sliceFactIds).filterMap supportedContext) :
    onlyElement ((sliceFacts entryId facts sliceFactIds).filterMap supportedContext) =
      some context := by
  have short := of_decide_eq_false agreed
  have filled := List.length_pos_of_mem (List.mem_dedup.mpr member)
  obtain ⟨only, single⟩ := List.length_eq_one_iff.mp
    (show ((sliceFacts entryId facts sliceFactIds).filterMap supportedContext).dedup.length = 1 by
      omega)
  have all : ∀ other ∈ (sliceFacts entryId facts sliceFactIds).filterMap supportedContext,
      other = only := by
    intro other otherMember
    rw [← List.mem_dedup, single, List.mem_singleton] at otherMember
    exact otherMember
  apply (onlyElement_iff _ _).mpr
  exact ⟨member, fun other otherMember => (all other otherMember).trans (all context member).symm⟩

theorem verified_context_local (identified : ∀ left ∈ facts, ∀ right ∈ facts,
      left.factId = right.factId → left = right)
    (inside : citesInside entryId contract facts (factIds facts) = true)
    (known : verifiedContext entryId contract facts (factIds facts) ≠ .unknown) :
    (deriveAuthContractFromFacts entryId facts).map (·.authContext) =
      some (verifiedContext entryId contract facts (factIds facts)) := by
  have own : ∀ fact, fact ∈ sliceFacts entryId facts (factIds facts) ↔
      fact ∈ facts.filter fun fact => fact.entryId = entryId := by
    intro fact
    simp only [mem_slice_facts, mem_indexed facts identified, List.mem_filter, decide_eq_true_eq]
    exact ⟨fun both => ⟨both.1, both.2.1⟩, fun both => ⟨both.1, both.2, List.mem_map_of_mem both.1⟩⟩
  unfold verifiedContext at known ⊢
  split at known
  · exact absurd rfl known
  · rename_i settled
    simp only [not_or, not_not, Bool.not_eq_true] at settled
    obtain ⟨kept, supports⟩ := claimed_context_cited contract facts known
    have member := cited_support_slice entryId contract facts _ inside _ supports
    have only := (onlyElement_iff _ _).mp (no_conflict_only entryId facts _ _ settled.1 member)
    have noGap : (facts.filter fun fact => fact.entryId = entryId).any coverageGap = false := by
      rw [List.any_eq_false]
      intro fact present gap
      exact List.filter_eq_nil_iff.mp settled.2 fact ((own fact).mpr present) gap
    have derived : onlyElement ((facts.filter fun fact => fact.entryId = entryId).filterMap
        supportedContext) = some contract.authContext := by
      apply (onlyElement_iff _ _).mpr
      simp only [List.mem_filterMap, own] at only
      simpa only [List.mem_filterMap] using only
    simp only [deriveAuthContractFromFacts, noGap, derived, settled.1, settled.2, kept]
    rfl

theorem decided_status_privileged (gap : Bool) (context : AuthContext)
    (deployment : DeploymentStatus)
    (reason : "REACH_PRIVILEGED" ∈ (decidedStatus gap context deployment).2) :
    context = .privileged := by
  cases gap <;> cases context <;> cases deployment <;> revert reason <;> decide

theorem decided_status_ordinary (gap : Bool) (context : AuthContext) (deployment : DeploymentStatus)
    (ordinary : (decidedStatus gap context deployment).1 = .ordinaryAttackerReachable) :
    (context = .unauthenticated ∨ context = .lowPrivilege) ∧ deployment = .defaultEnabled := by
  cases gap <;> cases context <;> cases deployment <;> revert ordinary <;> decide

theorem verify_auth_contract_ok (decision : ReachabilityDecision)
    (accepted : verifyAuthContract lower repr entryId contract facts sliceFactIds
      configurationFacts = .ok decision) : citesInside entryId contract facts sliceFactIds = true ∧
      decision.authContext = verifiedContext entryId contract facts sliceFactIds ∧
      decision.deploymentStatus = resolveDeploymentStatus lower configurationFacts
        (deploymentFacts entryId facts sliceFactIds) ∧
      (decision.status = .ordinaryAttackerReachable →
        (decision.authContext = .unauthenticated ∨ decision.authContext = .lowPrivilege) ∧
          decision.deploymentStatus = .defaultEnabled) ∧
      ("REACH_PRIVILEGED" ∈ decision.reasonCodes → decision.authContext = .privileged) := by
  unfold verifyAuthContract at accepted
  obtain ⟨_, inside, created⟩ := bind_ok.mp accepted
  obtain ⟨context, deployment, status, reasons⟩ := create_decision _ _ _ _ _ _ _ _ created
  refine ⟨(require_ok _ _ _).mp inside, context, deployment, ?_, ?_⟩
  · rw [status, context, deployment]
    exact decided_status_ordinary _ _ _
  · rw [reasons, context, mem_sortedSet, List.mem_append]
    intro reason
    rcases reason with own | conflict
    · exact decided_status_privileged _ _ _ own
    · split at conflict
      · exact absurd conflict (by decide)
      · cases conflict

/-- The context of an accepted contract is unknown or the one that the same facts derive: no two
contracts decide differently about privilege, and none reaches where nothing is derived. -/
theorem accepted_context_local (identified : ∀ left ∈ facts, ∀ right ∈ facts,
      left.factId = right.factId → left = right) :
    (∀ contract decision, verifyAuthContract lower repr entryId contract facts (factIds facts)
        configurationFacts = .ok decision → decision.authContext = .unknown ∨
        (deriveAuthContractFromFacts entryId facts).map (·.authContext) =
          some decision.authContext) ∧ (∀ contract other decision otherDecision,
        verifyAuthContract lower repr entryId contract facts (factIds facts) configurationFacts =
          .ok decision →
        verifyAuthContract lower repr entryId other facts (factIds facts) configurationFacts =
          .ok otherDecision → decision.status = .ordinaryAttackerReachable →
        ¬ (otherDecision.status = .notEntryReachable ∧
          "REACH_PRIVILEGED" ∈ otherDecision.reasonCodes)) ∧
      (deriveAuthContractFromFacts entryId facts = none →
        ∀ contract decision, verifyAuthContract lower repr entryId contract facts (factIds facts)
          configurationFacts = .ok decision → decision.status ≠ .ordinaryAttackerReachable) := by
  have derived : ∀ contract decision, verifyAuthContract lower repr entryId contract facts
      (factIds facts) configurationFacts = .ok decision → decision.authContext = .unknown ∨
        (deriveAuthContractFromFacts entryId facts).map (·.authContext) =
          some decision.authContext := by
    intro contract decision accepted
    obtain ⟨inside, context, -⟩ := verify_auth_contract_ok _ _ _ _ _ _ _ _ accepted
    by_cases known : decision.authContext = .unknown
    · exact Or.inl known
    · rw [context] at known ⊢
      exact Or.inr (verified_context_local entryId contract facts identified inside known)
  refine ⟨derived, ?_, ?_⟩
  · intro contract other decision otherDecision accepted otherAccepted ordinary privileged
    obtain ⟨-, -, -, reachable, -⟩ := verify_auth_contract_ok _ _ _ _ _ _ _ _ accepted
    obtain ⟨-, -, -, -, reason⟩ := verify_auth_contract_ok _ _ _ _ _ _ _ _ otherAccepted
    have open_ := (reachable ordinary).1
    have closed := reason privileged.2
    rcases derived _ _ accepted with unknown | own
    · simp [unknown] at open_
    · rcases derived _ _ otherAccepted with unknown | otherOwn
      · simp [unknown] at closed
      · have same := Option.some_inj.mp (own.symm.trans otherOwn)
        simp [same, closed] at open_
  · intro none contract decision accepted ordinary
    obtain ⟨-, -, -, reachable, -⟩ := verify_auth_contract_ok _ _ _ _ _ _ _ _ accepted
    have open_ := (reachable ordinary).1
    rcases derived _ _ accepted with unknown | own
    · simp [unknown] at open_
    · simp [none] at own

end

def publicFacts : List EntrySecurityFact := [publicFact, enabledGate]

def publicContract : AuthContract where
  authContext := .unauthenticated
  evidenceIds := [publicFact.factId]
  assumptions := []
  confidence := .high
  evidenceBounded := by simp
  assumptionsBounded := by simp
  evidenceDistinct := List.nodup_singleton _
  evidenceValid := List.forall_mem_singleton.mpr (fact_id_valid publicFact)
  assumptionsValid := List.forall_mem_nil _

theorem public_facts_identified : ∀ left ∈ publicFacts, ∀ right ∈ publicFacts,
    left.factId = right.factId → left = right := by
  have apart : publicFact.factId ≠ enabledGate.factId := by decide
  intro left leftIn right rightIn same
  simp only [publicFacts, List.mem_cons, List.not_mem_nil, or_false] at leftIn rightIn
  rcases leftIn with rfl | rfl <;> rcases rightIn with rfl | rfl
  · rfl
  · exact absurd same apart
  · exact absurd same.symm apart
  · rfl

def acceptedContext : Checked ReachabilityDecision → Option AuthContext
  | .ok decision => some decision.authContext
  | .error _ => none

theorem public_contract_accepted : acceptedContext (verifyAuthContract Text.lowerAscii
    (fun _ => "{}") "entry:test" publicContract publicFacts (factIds publicFacts) []) =
      some .unauthenticated := by
  decide +kernel

/-- A contract that cites the public fact beside an enabled gate is accepted. -/
theorem accepted_context_local_public :
    ∃ decision, verifyAuthContract Text.lowerAscii (fun _ => "{}") "entry:test" publicContract
        publicFacts (factIds publicFacts) [] = .ok decision ∧
      decision.authContext = .unauthenticated ∧
      (deriveAuthContractFromFacts "entry:test" publicFacts).map (·.authContext) =
        some .unauthenticated := by
  have context := public_contract_accepted
  cases accepted : verifyAuthContract Text.lowerAscii (fun _ => "{}") "entry:test" publicContract
      publicFacts (factIds publicFacts) [] with
  | ok decision =>
    rw [accepted] at context
    have known := Option.some_inj.mp context
    have derived := (accepted_context_local Text.lowerAscii (fun _ => "{}") "entry:test"
      publicFacts [] public_facts_identified).1 publicContract decision accepted
    rw [known] at derived
    exact ⟨decision, rfl, known, derived.resolve_left (by decide)⟩
  | error raised =>
    rw [accepted] at context
    cases context

/-- A set of gates enables an entry only as its gates do alone, exactly when no gate is overlooked;
an entry that an ordinary attacker reaches then has complete enabling gates only. -/
theorem deployment_fails_closed_iff (lower : String → String)
    (configurationFacts : List ModeledConfigurationFact) :
    (∀ facts, (resolveDeploymentStatus lower configurationFacts facts = .defaultEnabled →
        ∀ fact ∈ facts, fact.kind = .deploymentGate → fact.coverage = .complete ∧
          resolveDeploymentStatus lower configurationFacts [fact] = .defaultEnabled) ↔
        NoGateOverlooked lower configurationFacts facts) ∧
      ∀ repr entryId contract facts sliceFactIds decision,
        verifyAuthContract lower repr entryId contract facts sliceFactIds configurationFacts =
          .ok decision → decision.status = .ordinaryAttackerReachable →
        NoGateOverlooked lower configurationFacts (deploymentFacts entryId facts sliceFactIds) →
        ∀ fact ∈ deploymentFacts entryId facts sliceFactIds, fact.coverage = .complete ∧
          resolveDeploymentStatus lower configurationFacts [fact] = .defaultEnabled := by
  apply And.intro (resolve_overlooks_nothing_iff lower configurationFacts)
  intro repr entryId contract facts sliceFactIds decision accepted ordinary condition fact member
  obtain ⟨-, -, deployment, reachable, -⟩ := verify_auth_contract_ok _ _ _ _ _ _ _ _ accepted
  have enabled := deployment.symm.trans (reachable ordinary).2
  have gate : fact.kind = .deploymentGate := of_decide_eq_true (List.mem_filter.mp member).2
  exact (resolve_overlooks_nothing_iff lower configurationFacts _).mpr condition enabled fact member
    gate

/-- A profile gate without known profiles beside a default gate is passed over. -/
theorem unsettled_gate_passed_over : ¬ ∀ facts : List EntrySecurityFact,
      (∀ fact ∈ facts, fact.entryId = "entry:test" ∧ fact.kind = .deploymentGate) →
      resolveDeploymentStatus Text.lowerAscii [] facts = .defaultEnabled →
      ∀ fact ∈ facts, fact.coverage = .complete ∧
        resolveDeploymentStatus Text.lowerAscii [] [fact] = .defaultEnabled := by
  intro closed
  have gates := closed [enabledGate, profileGate] (by decide) (by decide) profileGate
    (.tail _ (.head _))
  exact absurd gates.2 (by decide)

end DosWeb.Reachability
