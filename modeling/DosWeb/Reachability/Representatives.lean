import DosWeb.Library.Grouping
import DosWeb.Reachability.Verify

/-!
A decision is built for every contract that cites inside its slice, whatever the facts are and in
whatever order, and its evidence has a fact for each ground that the slice gives.
-/

namespace DosWeb.Reachability

open Library Library.OrderedSet
open Library.Grouping (erase_dups_nodup)
open Identifiers
open Entries (AuthContext)

section

theorem erase_dups_short {α : Type} [DecidableEq α] (items : List α) :
    items.eraseDups.length ≤ items.length := by
  have inside : items.eraseDups ⊆ items := fun _ member => List.mem_eraseDups.mp member
  exact (List.subperm_of_subset (erase_dups_nodup items) inside).length_le

theorem mem_budget {α : Type} [DecidableEq α] (front back : List α) (count : Nat) (item : α)
    (member : item ∈ front) (short : front.length ≤ count) :
    item ∈ (front ++ back).eraseDups.take count := by
  have fewer : front.eraseDups.length ≤ count := (erase_dups_short front).trans short
  rw [List.eraseDups_append, List.take_append]
  apply List.mem_append_left
  rw [List.take_of_length_le fewer]
  exact List.mem_eraseDups.mpr member

theorem least_short (ids : List String) : (least ids).length ≤ 1 := List.length_take_le 1 _

theorem least_filled (ids : List String) (id : String) (member : id ∈ ids) :
    ∃ first ∈ ids, first ∈ least ids := by
  have filled : sortedSet ids ≠ [] :=
    fun empty => List.ne_nil_of_mem member ((sortedSet_eq_nil ids).mp empty)
  obtain ⟨first, rest, shape⟩ := List.exists_cons_of_ne_nil filled
  have inside : first ∈ least ids := by
    rw [least, shape]
    exact .head _
  exact ⟨first, mem_least ids first inside, inside⟩

theorem least_congr (left right : List String) (same : ∀ id, id ∈ left ↔ id ∈ right) :
    least left = least right := by
  rw [least, least, sortedSet_congr left right same]

variable (gaps cited : List String) (auth : AuthContext → List String)
  (deployment : DeploymentStatus → List String)

/-- The representatives of the gaps, the contexts and the statuses. -/
def representatives : List String :=
  least gaps ++ authContextOrder.flatMap (fun context => least (auth context)) ++
    deploymentStatusOrder.flatMap (fun status => least (deployment status))

theorem representatives_short : (representatives gaps auth deployment).length ≤ 8 := by
  have gap := least_short gaps
  have first := least_short (auth .unauthenticated)
  have second := least_short (auth .lowPrivilege)
  have third := least_short (auth .privileged)
  have enabled := least_short (deployment .defaultEnabled)
  have disabled := least_short (deployment .defaultDisabled)
  have chosen := least_short (deployment .optional)
  have unknown := least_short (deployment .unknown)
  simp only [representatives, authContextOrder, deploymentStatusOrder, List.flatMap_cons,
    List.flatMap_nil, List.length_append, List.length_nil]
  omega

theorem representatives_kept (id : String) (member : id ∈ representatives gaps auth deployment) :
    id ∈ boundedDecisionEvidence gaps auth deployment cited := by
  rw [boundedDecisionEvidence, mem_sortedSet]
  exact mem_budget _ _ _ _ member
    ((representatives_short gaps auth deployment).trans (by decide))

theorem gap_represented (id : String) (member : id ∈ gaps) :
    ∃ first ∈ gaps, first ∈ boundedDecisionEvidence gaps auth deployment cited := by
  obtain ⟨first, inside, least_⟩ := least_filled gaps id member
  refine ⟨first, inside, representatives_kept gaps cited auth deployment first ?_⟩
  exact List.mem_append_left _ (List.mem_append_left _ least_)

theorem context_represented (context : AuthContext) (known : context ∈ authContextOrder)
    (id : String) (member : id ∈ auth context) :
    ∃ first ∈ auth context, first ∈ boundedDecisionEvidence gaps auth deployment cited := by
  obtain ⟨first, inside, least_⟩ := least_filled _ id member
  refine ⟨first, inside, representatives_kept gaps cited auth deployment first ?_⟩
  apply List.mem_append_left
  exact List.mem_append_right _ (List.mem_flatMap.mpr ⟨context, known, least_⟩)

theorem status_represented (status : DeploymentStatus) (id : String)
    (member : id ∈ deployment status) :
    ∃ first ∈ deployment status, first ∈ boundedDecisionEvidence gaps auth deployment cited := by
  obtain ⟨first, inside, least_⟩ := least_filled _ id member
  refine ⟨first, inside, representatives_kept gaps cited auth deployment first ?_⟩
  have known : status ∈ deploymentStatusOrder := by
    cases status <;> decide
  exact List.mem_append_right _ (List.mem_flatMap.mpr ⟨status, known, least_⟩)

theorem evidence_short : (boundedDecisionEvidence gaps auth deployment cited).length ≤ 32 := by
  rw [boundedDecisionEvidence, sortedSet_length _ ((erase_dups_nodup _).sublist
    (List.take_sublist _ _))]
  exact List.length_take_le _ _

theorem evidence_source (id : String)
    (member : id ∈ boundedDecisionEvidence gaps auth deployment cited) :
    id ∈ gaps ∨ (∃ context, id ∈ auth context) ∨ (∃ status, id ∈ deployment status) ∨
      id ∈ cited := by
  rw [boundedDecisionEvidence, mem_sortedSet] at member
  have listed := List.mem_eraseDups.mp (List.mem_of_mem_take member)
  rcases List.mem_append.mp listed with front | own
  · rcases List.mem_append.mp front with early | status
    · rcases List.mem_append.mp early with gap | context
      · exact Or.inl (mem_least gaps id gap)
      · obtain ⟨context, -, inside⟩ := List.mem_flatMap.mp context
        exact Or.inr (Or.inl ⟨context, mem_least _ id inside⟩)
    · obtain ⟨status, -, inside⟩ := List.mem_flatMap.mp status
      exact Or.inr (Or.inr (Or.inl ⟨status, mem_least _ id inside⟩))
  · exact Or.inr (Or.inr (Or.inr ((List.mem_insertionSort _).mp own)))

theorem evidence_congr (otherGaps : List String) (otherAuth : AuthContext → List String)
    (otherDeployment : DeploymentStatus → List String) (sameGaps : ∀ id, id ∈ gaps ↔ id ∈ otherGaps)
    (sameAuth : ∀ context id, id ∈ auth context ↔ id ∈ otherAuth context)
    (sameDeployment : ∀ status id, id ∈ deployment status ↔ id ∈ otherDeployment status) :
    boundedDecisionEvidence gaps auth deployment cited =
      boundedDecisionEvidence otherGaps otherAuth otherDeployment cited := by
  have contexts : (fun context => least (auth context)) =
      fun context => least (otherAuth context) :=
    funext fun context => least_congr _ _ (sameAuth context)
  have statuses : (fun status => least (deployment status)) =
      fun status => least (otherDeployment status) :=
    funext fun status => least_congr _ _ (sameDeployment status)
  rw [boundedDecisionEvidence, boundedDecisionEvidence, least_congr _ _ sameGaps, contexts,
    statuses]

end

theorem context_known (fact : EntrySecurityFact) (context : AuthContext)
    (supported : supportedContext fact = some context) : context ∈ authContextOrder := by
  have listed : ∀ pair ∈ authContextByFact, pair.2 ∈ authContextOrder := by decide
  unfold supportedContext authContextForFact at supported
  split at supported
  · obtain ⟨front, back, whole, -⟩ := List.lookup_eq_some_iff.mp supported
    exact listed _ (whole ▸ List.mem_append_right front (.head _))
  · cases supported

/-- What the constructor of decisions checks of the context, the status and the reasons. -/
structure Consistent (gap : Bool) (context : AuthContext) (deployment : DeploymentStatus)
    (status : ReachabilityStatus) (reasons : List String) : Prop where
  filled : reasons ≠ []
  short : reasons.length ≤ 32
  gapSaid : decide ("REACH_AUTH_COVERAGE_PARTIAL" ∈ reasons) = gap
  gapUnknown : gap = false ∨ context = .unknown
  statusExpected : status = expectedStatus gap context deployment
  texts : reasons.all validText = true

def reasonTexts : List String :=
  ["REACH_AUTH_COVERAGE_PARTIAL", "REACH_AUTH_UNKNOWN", "REACH_PRIVILEGED",
    "REACH_DEFAULT_DISABLED", "REACH_OPTIONAL_COMPONENT", "REACH_ORDINARY_ATTACKER",
    "REACH_DEPLOYMENT_UNKNOWN", "REACH_AUTH_CONFLICT"]

theorem reason_texts_valid : reasonTexts.all validText = true := by
  decide

section

variable (gap conflict : Bool) (context : AuthContext) (deployment : DeploymentStatus)

include gap conflict context deployment

theorem decided_reasons : ∀ reason ∈ (decidedStatus gap context deployment).2 ++
      (if conflict then ["REACH_AUTH_CONFLICT"] else []), reason ∈ reasonTexts := by
  cases gap <;> cases conflict <;> cases context <;> cases deployment <;> decide

theorem decided_gap :
    decide ("REACH_AUTH_COVERAGE_PARTIAL" ∈ (decidedStatus gap context deployment).2 ++
      (if conflict then ["REACH_AUTH_CONFLICT"] else [])) = gap := by
  cases gap <;> cases conflict <;> cases context <;> cases deployment <;> decide

theorem decided_short : let reasons := (decidedStatus gap context deployment).2 ++
      (if conflict then ["REACH_AUTH_CONFLICT"] else [])
    reasons ≠ [] ∧ reasons.length ≤ 32 := by
  cases gap <;> cases conflict <;> cases context <;> cases deployment <;> decide

end

theorem decided_expected (gap : Bool) (context : AuthContext) (deployment : DeploymentStatus)
    (unknown : gap = false ∨ context = .unknown) :
    (decidedStatus gap context deployment).1 = expectedStatus gap context deployment := by
  cases gap <;> cases context <;> cases deployment <;> revert unknown <;> decide

theorem decided_consistent (gap conflict : Bool) (context : AuthContext)
    (deployment : DeploymentStatus) (unknown : gap = false ∨ context = .unknown) :
    Consistent gap context deployment (decidedStatus gap context deployment).1
      (sortedSet ((decidedStatus gap context deployment).2 ++
        (if conflict then ["REACH_AUTH_CONFLICT"] else []))) where
  filled := fun empty => (decided_short gap conflict context deployment).1
    ((sortedSet_eq_nil _).mp empty)
  short := by
    have fewer : (sortedSet ((decidedStatus gap context deployment).2 ++
        (if conflict then ["REACH_AUTH_CONFLICT"] else []))).length ≤
        ((decidedStatus gap context deployment).2 ++
          (if conflict then ["REACH_AUTH_CONFLICT"] else [])).length := by
      rw [sortedSet, List.length_insertionSort]
      exact (List.dedup_sublist _).length_le
    exact fewer.trans (decided_short gap conflict context deployment).2
  gapSaid := (decide_eq_decide.mpr (mem_sortedSet _ _)).trans
    (decided_gap gap conflict context deployment)
  gapUnknown := unknown
  statusExpected := decided_expected gap context deployment unknown
  texts := by
    rw [List.all_eq_true]
    intro reason member
    exact List.all_eq_true.mp reason_texts_valid reason
      (decided_reasons gap conflict context deployment reason ((mem_sortedSet _ _).mp member))

theorem decision_created (entryId contractId : String) (gap : Bool) (context : AuthContext)
    (deployment : DeploymentStatus) (status : ReachabilityStatus) (evidence reasons : List String)
    (entryValid : validId entryId "entry:" = true)
    (contractValid : validId contractId "auth_contract:" = true) (short : evidence.length ≤ 32)
    (distinct : evidence.Nodup) (valid : ∀ id ∈ evidence, validId id "security:" = true)
    (consistent : Consistent gap context deployment status reasons) (apart : reasons.Nodup) :
    ∃ decision, ReachabilityDecision.create entryId contractId context deployment status evidence
      reasons = .ok decision ∧ decision.evidenceIds = evidence := by
  unfold ReachabilityDecision.create
  have all := List.all_eq_true.mpr valid
  have unknown := consistent.gapUnknown
  rw [consistent.gapSaid]
  simp only [bind_ok, require_ok, exists_const, decide_eq_true_eq, Bool.decide_and,
    Bool.and_eq_true]
  exact ⟨_, ⟨entryValid, contractValid, ⟨short, consistent.filled, consistent.short, distinct,
    apart⟩, unknown, consistent.statusExpected, all, consistent.texts, rfl⟩, rfl⟩

theorem solid_id_valid (text lead : String) (filled : text ≠ "")
    (solid : Char.ofNat 0 ∉ text.toList) (short : (Text.utf8 text.toList).length ≤ maxText)
    (starts : Text.startsWith text lead = true) : validId text lead = true := by
  simp [validId, validText, filled, solid, short, starts]

theorem contract_id_valid (data : List UInt8) :
    validId ("auth_contract:" ++ Sha256.hexdigest data) "auth_contract:" = true := by
  have plain : ∀ c ∈ ("auth_contract:" ++ Sha256.hexdigest data).toList, plainChar c = true := by
    intro c member
    rw [String.toList_append, List.mem_append] at member
    rcases member with own | digit
    · exact List.all_eq_true.mp (by decide : "auth_contract:".toList.all plainChar = true) c own
    · exact List.all_eq_true.mp hex_plain c (Sha256.hexdigest_digits data c digit)
  simp only [plainChar, Bool.and_eq_true, decide_eq_true_eq, bne_iff_ne] at plain
  have starts := Text.startsWith_append "auth_contract:" (Sha256.hexdigest data)
  have filled := Text.startsWith_nonempty _ _ (by decide) starts
  have solid : Char.ofNat 0 ∉ ("auth_contract:" ++ Sha256.hexdigest data).toList :=
    fun member => (plain _ member).2 rfl
  have short : (Text.utf8 ("auth_contract:" ++ Sha256.hexdigest data).toList).length ≤ maxText := by
    have size := Sha256.hexdigest_length data
    rw [Text.utf8_length_ascii _ fun c member => (plain c member).1, String.toList_append,
      List.length_append, String.length_toList, String.length_toList, size]
    decide
  exact solid_id_valid _ _ filled solid short starts

section

variable (facts : List EntrySecurityFact)

def Identified : Prop := ∀ left ∈ facts, ∀ right ∈ facts, left.factId = right.factId → left = right

theorem indexed_nodup : (indexed facts).Nodup := by
  induction facts with
  | nil => exact List.nodup_nil
  | cons first rest ih =>
    unfold indexed
    split
    · exact ih
    · rename_i single
      refine List.nodup_cons.mpr ⟨fun member => single ?_, ih⟩
      exact List.any_eq_true.mpr ⟨first, indexed_mem rest first member, decide_eq_true rfl⟩

theorem indexed_fact_iff (identified : Identified facts) (id : String) (fact : EntrySecurityFact) :
    indexedFact facts id = some fact ↔ fact ∈ facts ∧ fact.factId = id := by
  constructor
  · intro found
    have named := List.find?_some found
    exact ⟨indexed_mem facts fact (List.mem_of_find?_eq_some found), of_decide_eq_true named⟩
  · rintro ⟨member, named⟩
    cases found : indexedFact facts id with
    | none =>
      have absent := List.find?_eq_none.mp found fact
        ((mem_indexed facts identified fact).mpr member)
      exact absurd (decide_eq_true named) absent
    | some other =>
      have inside := indexed_mem facts other (List.mem_of_find?_eq_some found)
      have own := List.find?_some found
      have same : other.factId = id := of_decide_eq_true own
      rw [identified other inside fact member (same.trans named.symm)]

variable (others : List EntrySecurityFact) (permuted : facts.Perm others)
  (identified : Identified facts)

include permuted identified

theorem identified_perm : Identified others := fun left one right other =>
  identified left (permuted.mem_iff.mpr one) right (permuted.mem_iff.mpr other)

theorem indexed_perm : (indexed facts).Perm (indexed others) := by
  apply (List.perm_ext_iff_of_nodup (indexed_nodup facts) (indexed_nodup others)).mpr
  intro fact
  rw [mem_indexed facts identified, permuted.mem_iff,
    mem_indexed others (identified_perm facts others permuted identified)]

theorem indexed_fact_perm (id : String) : indexedFact facts id = indexedFact others id := by
  apply Option.ext
  intro fact
  rw [indexed_fact_iff facts identified, permuted.mem_iff,
    indexed_fact_iff others (identified_perm facts others permuted identified)]

variable (entryId : String) (sliceFactIds : List String)

theorem slice_facts_perm :
    (sliceFacts entryId facts sliceFactIds).Perm (sliceFacts entryId others sliceFactIds) :=
  (indexed_perm facts others permuted identified).filter _

theorem conflict_perm :
    authConflict entryId facts sliceFactIds = authConflict entryId others sliceFactIds := by
  have same := ((slice_facts_perm facts others permuted identified entryId
    sliceFactIds).filterMap supportedContext).dedup.length_eq
  rw [authConflict, authConflict, same]

theorem gaps_perm : (authCoverageGaps entryId facts sliceFactIds).Perm
    (authCoverageGaps entryId others sliceFactIds) :=
  (slice_facts_perm facts others permuted identified entryId sliceFactIds).filter _

theorem context_perm (contract : AuthContract) :
    verifiedContext entryId contract facts sliceFactIds =
      verifiedContext entryId contract others sliceFactIds := by
  have gaps := (gaps_perm facts others permuted identified entryId sliceFactIds)
  have cited : indexedFact facts = indexedFact others :=
    funext (indexed_fact_perm facts others permuted identified)
  have supports : citedSupports contract facts = citedSupports contract others := by
    funext context
    rw [citedSupports, citedSupports, cited]
  have claimed : claimedContext contract facts = claimedContext contract others := by
    rw [claimedContext, claimedContext, supports]
  have none_ : authCoverageGaps entryId facts sliceFactIds ≠ [] ↔
      authCoverageGaps entryId others sliceFactIds ≠ [] :=
    not_congr ⟨fun empty => (empty ▸ gaps).nil_eq.symm, fun empty => (empty ▸ gaps).eq_nil⟩
  rw [verifiedContext, verifiedContext, claimed,
    conflict_perm facts others permuted identified entryId sliceFactIds]
  simp only [none_]

end

section

variable (lower : String → String) (repr : AuthContract → String) (entryId : String)
  (contract : AuthContract) (facts : List EntrySecurityFact) (sliceFactIds : List String)
  (configurationFacts : List ModeledConfigurationFact) (others : List EntrySecurityFact)

theorem deployment_facts_perm (permuted : facts.Perm others)
    (identified : Identified facts) : (deploymentFacts entryId facts sliceFactIds).Perm
      (deploymentFacts entryId others sliceFactIds) :=
  (slice_facts_perm facts others permuted identified entryId sliceFactIds).filter _

theorem resolve_perm (left right : List EntrySecurityFact) (permuted : left.Perm right) :
    resolveDeploymentStatus lower configurationFacts left =
      resolveDeploymentStatus lower configurationFacts right := by
  have same : onlyElement (left.filterMap (gateStatus lower configurationFacts)) =
      onlyElement (right.filterMap (gateStatus lower configurationFacts)) := by
    apply Option.ext
    intro status
    have mapped := permuted.filterMap (gateStatus lower configurationFacts)
    simp only [onlyElement_iff, mapped.mem_iff]
  rw [resolveDeploymentStatus, resolveDeploymentStatus, same]

def decisionEvidence : List String :=
  boundedDecisionEvidence (factIds (authCoverageGaps entryId facts sliceFactIds))
    (fun context => factIds (supporting (sliceFacts entryId facts sliceFactIds) context))
    (deploymentEvidence lower entryId facts sliceFactIds configurationFacts) contract.evidenceIds

theorem decision_evidence_perm (permuted : facts.Perm others) (identified : Identified facts) :
    decisionEvidence lower entryId contract facts sliceFactIds configurationFacts =
      decisionEvidence lower entryId contract others sliceFactIds configurationFacts := by
  apply evidence_congr
  · exact fun id => ((gaps_perm facts others permuted identified entryId
      sliceFactIds).map (·.factId)).mem_iff
  · exact fun context id => (((slice_facts_perm facts others permuted identified entryId
      sliceFactIds).filter _).map (·.factId)).mem_iff
  · exact fun status id => (((deployment_facts_perm entryId facts sliceFactIds others permuted
      identified).filter _).map (·.factId)).mem_iff

theorem verify_perm (permuted : facts.Perm others) (identified : Identified facts) :
    verifyAuthContract lower repr entryId contract facts sliceFactIds configurationFacts =
      verifyAuthContract lower repr entryId contract others sliceFactIds configurationFacts := by
  have cited : indexedFact facts = indexedFact others :=
    funext (indexed_fact_perm facts others permuted identified)
  have inside : citesInside entryId contract facts sliceFactIds =
      citesInside entryId contract others sliceFactIds := by
    rw [citesInside, citesInside, cited]
  have gaps := gaps_perm facts others permuted identified entryId sliceFactIds
  have none_ : (authCoverageGaps entryId facts sliceFactIds ≠ []) =
      (authCoverageGaps entryId others sliceFactIds ≠ []) := by
    apply propext
    exact not_congr ⟨fun empty => (empty ▸ gaps).nil_eq.symm, fun empty => (empty ▸ gaps).eq_nil⟩
  have evidence := decision_evidence_perm lower entryId contract facts sliceFactIds
    configurationFacts others permuted identified
  unfold decisionEvidence at evidence
  unfold verifyAuthContract
  simp only [inside, none_, evidence,
    conflict_perm facts others permuted identified entryId sliceFactIds,
    context_perm facts others permuted identified entryId sliceFactIds contract,
    resolve_perm lower configurationFacts _ _
      (deployment_facts_perm entryId facts sliceFactIds others permuted identified)]

def Own (fact : EntrySecurityFact) : Prop :=
  fact ∈ facts ∧ fact.entryId = entryId ∧ fact.factId ∈ sliceFactIds

/-- The evidence is bounded, comes from the slice or is cited, and has a fact for the gaps, one for
each supported context and one for each status of a complete gate. -/
structure Represented (evidence : List String) : Prop where
  distinct : evidence.Nodup
  bounded : evidence.length ≤ 32
  inside : ∀ id ∈ evidence, id ∈ sliceFactIds ∨ id ∈ contract.evidenceIds
  gap : (∃ fact, Own entryId facts sliceFactIds fact ∧ coverageGap fact = true) →
    ∃ fact, Own entryId facts sliceFactIds fact ∧ coverageGap fact = true ∧ fact.factId ∈ evidence
  context : ∀ context,
    (∃ fact, Own entryId facts sliceFactIds fact ∧ supportedContext fact = some context) →
    ∃ fact, Own entryId facts sliceFactIds fact ∧ supportedContext fact = some context ∧
      fact.factId ∈ evidence
  status : ∀ status, (∃ fact, Own entryId facts sliceFactIds fact ∧ fact.kind = .deploymentGate ∧
      fact.coverage = .complete ∧
      resolveDeploymentStatus lower configurationFacts [fact] = status) →
    ∃ fact, Own entryId facts sliceFactIds fact ∧ fact.kind = .deploymentGate ∧
      fact.coverage = .complete ∧
      resolveDeploymentStatus lower configurationFacts [fact] = status ∧ fact.factId ∈ evidence

theorem decision_evidence_valid :
    ∀ id ∈ decisionEvidence lower entryId contract facts sliceFactIds configurationFacts,
      validId id "security:" = true := by
  intro id member
  have named : ∀ own : List EntrySecurityFact,
      id ∈ factIds own → validId id "security:" = true := by
    intro own inside
    obtain ⟨fact, -, rfl⟩ := List.mem_map.mp inside
    exact fact_id_valid fact
  rcases evidence_source _ _ _ _ id member with gap | ⟨context, own⟩ | ⟨status, own⟩ | cited
  · exact named _ gap
  · exact named _ own
  · exact named _ own
  · exact contract.evidenceValid id cited

theorem decision_built (entryValid : validId entryId "entry:" = true)
    (inside : citesInside entryId contract facts sliceFactIds = true) :
    ∃ decision, verifyAuthContract lower repr entryId contract facts sliceFactIds
        configurationFacts = .ok decision ∧ decision.evidenceIds =
        decisionEvidence lower entryId contract facts sliceFactIds configurationFacts := by
  have unknown : decide (authCoverageGaps entryId facts sliceFactIds ≠ []) = false ∨
      verifiedContext entryId contract facts sliceFactIds = .unknown := by
    by_cases gap : authCoverageGaps entryId facts sliceFactIds ≠ []
    · exact Or.inr (if_pos (Or.inr gap))
    · exact Or.inl (decide_eq_false gap)
  obtain ⟨decision, created, evidence⟩ := decision_created entryId
    ("auth_contract:" ++ Sha256.hexdigest (Text.utf8 (entryId ++ repr contract).toList)) _ _
    (resolveDeploymentStatus lower configurationFacts
      (deploymentFacts entryId facts sliceFactIds)) _
    (decisionEvidence lower entryId contract facts sliceFactIds configurationFacts) _ entryValid
    (contract_id_valid _) (evidence_short _ _ _ _) (sortedSet_nodup _)
    (decision_evidence_valid lower entryId contract facts sliceFactIds configurationFacts)
    (decided_consistent _ (authConflict entryId facts sliceFactIds) _ _ unknown) (sortedSet_nodup _)
  refine ⟨decision, ?_, evidence⟩
  exact bind_ok.mpr ⟨(), (require_ok _ _ _).mpr inside, created⟩

variable (identified : Identified facts)

include identified in
theorem slice_facts_own (fact : EntrySecurityFact) :
    fact ∈ sliceFacts entryId facts sliceFactIds ↔ Own entryId facts sliceFactIds fact := by
  rw [mem_slice_facts, mem_indexed facts identified, Own]

include identified in
theorem evidence_represented : Represented lower entryId contract facts sliceFactIds
    configurationFacts
    (decisionEvidence lower entryId contract facts sliceFactIds configurationFacts) where
  distinct := sortedSet_nodup _
  bounded := evidence_short _ _ _ _
  inside := by
    intro id member
    have sliced : ∀ own : List EntrySecurityFact,
        own.Sublist (sliceFacts entryId facts sliceFactIds) → id ∈ factIds own →
          id ∈ sliceFactIds := by
      intro own part listed
      obtain ⟨fact, present, rfl⟩ := List.mem_map.mp listed
      exact ((mem_slice_facts entryId facts sliceFactIds fact).mp (part.subset present)).2.2
    rcases evidence_source _ _ _ _ id member with gap | ⟨context, own⟩ | ⟨status, own⟩ | cited
    · exact Or.inl (sliced _ List.filter_sublist gap)
    · exact Or.inl (sliced _ List.filter_sublist own)
    · exact Or.inl (sliced _ (List.filter_sublist.trans List.filter_sublist) own)
    · exact Or.inr cited
  gap := by
    rintro ⟨fact, own, gap⟩
    have present := List.mem_filter.mpr
      ⟨(slice_facts_own entryId facts sliceFactIds identified fact).mpr own, gap⟩
    obtain ⟨first, listed, kept⟩ := gap_represented _ contract.evidenceIds
      (fun context => factIds (supporting (sliceFacts entryId facts sliceFactIds) context))
      (deploymentEvidence lower entryId facts sliceFactIds configurationFacts) fact.factId
      (List.mem_map_of_mem present)
    obtain ⟨other, inside, rfl⟩ := List.mem_map.mp listed
    obtain ⟨sliced, gapped⟩ := List.mem_filter.mp inside
    exact ⟨other, (slice_facts_own entryId facts sliceFactIds identified other).mp sliced, gapped,
      kept⟩
  context := by
    rintro context ⟨fact, own, supported⟩
    have present : fact ∈ supporting (sliceFacts entryId facts sliceFactIds) context :=
      List.mem_filter.mpr ⟨(slice_facts_own entryId facts sliceFactIds identified fact).mpr own,
        decide_eq_true supported⟩
    obtain ⟨first, listed, kept⟩ := context_represented
      (factIds (authCoverageGaps entryId facts sliceFactIds)) contract.evidenceIds
      (fun context => factIds (supporting (sliceFacts entryId facts sliceFactIds) context))
      (deploymentEvidence lower entryId facts sliceFactIds configurationFacts) context
      (context_known fact context supported) fact.factId (List.mem_map_of_mem present)
    obtain ⟨other, inside, rfl⟩ := List.mem_map.mp listed
    obtain ⟨sliced, same⟩ := List.mem_filter.mp inside
    exact ⟨other, (slice_facts_own entryId facts sliceFactIds identified other).mp sliced,
      of_decide_eq_true same, kept⟩
  status := by
    rintro status ⟨fact, own, gate, complete, resolved⟩
    have deployed : fact ∈ deploymentFacts entryId facts sliceFactIds :=
      List.mem_filter.mpr ⟨(slice_facts_own entryId facts sliceFactIds identified fact).mpr own,
        decide_eq_true gate⟩
    have present : fact.factId ∈
        deploymentEvidence lower entryId facts sliceFactIds configurationFacts status :=
      List.mem_map_of_mem (List.mem_filter.mpr
        ⟨deployed, decide_eq_true (And.intro complete resolved)⟩)
    obtain ⟨first, listed, kept⟩ := status_represented
      (factIds (authCoverageGaps entryId facts sliceFactIds)) contract.evidenceIds
      (fun context => factIds (supporting (sliceFacts entryId facts sliceFactIds) context))
      (deploymentEvidence lower entryId facts sliceFactIds configurationFacts) status fact.factId
      present
    obtain ⟨other, inside, rfl⟩ := List.mem_map.mp listed
    obtain ⟨sliced, same⟩ := List.mem_filter.mp inside
    obtain ⟨otherDeployed, otherGate⟩ := List.mem_filter.mp sliced
    obtain ⟨otherComplete, otherResolved⟩ := of_decide_eq_true same
    exact ⟨other, (slice_facts_own entryId facts sliceFactIds identified other).mp otherDeployed,
      of_decide_eq_true otherGate, otherComplete, otherResolved, kept⟩

/-- Every contract that cites facts of the entry in the slice gets a decision. Its evidence is
bounded and has a fact for each ground that the slice gives, and no order of the facts changes
it. -/
theorem decision_represents (entryValid : validId entryId "entry:" = true)
    (identified : Identified facts)
    (inside : citesInside entryId contract facts sliceFactIds = true) :
    ∃ decision, verifyAuthContract lower repr entryId contract facts sliceFactIds
        configurationFacts = .ok decision ∧
      Represented lower entryId contract facts sliceFactIds configurationFacts
        decision.evidenceIds ∧
      ∀ others, facts.Perm others → verifyAuthContract lower repr entryId contract others
        sliceFactIds configurationFacts = .ok decision := by
  obtain ⟨decision, returned, evidence⟩ := decision_built lower repr entryId contract facts
    sliceFactIds configurationFacts entryValid inside
  refine ⟨decision, returned, ?_, ?_⟩
  · rw [evidence]
    exact evidence_represented lower entryId contract facts sliceFactIds configurationFacts
      identified
  · intro others permuted
    rw [← verify_perm lower repr entryId contract facts sliceFactIds configurationFacts others
      permuted identified]
    exact returned

end

theorem none_bounded : ([] : List String).length ≤ 32 := by decide

theorem none_valid : ∀ text ∈ ([] : List String), validText text = true :=
  List.forall_mem_nil _

def unsupportedContract : AuthContract where
  authContext := .unauthenticated
  evidenceIds := []
  assumptions := []
  confidence := .high
  evidenceBounded := none_bounded
  assumptionsBounded := none_bounded
  evidenceDistinct := List.nodup_nil
  evidenceValid := nofun
  assumptionsValid := none_valid

/-- The contract cites the public fact; the gate beside it is not its evidence. -/
theorem decision_represents_public :
    ∃ decision, verifyAuthContract Text.lowerAscii (fun _ => "{}") "entry:test" publicContract
        publicFacts (factIds publicFacts) [] = .ok decision ∧
      publicFact.factId ∈ decision.evidenceIds := by
  have cites : citesInside "entry:test" publicContract publicFacts (factIds publicFacts) = true := by
    decide
  obtain ⟨decision, returned, represented, -⟩ := decision_represents Text.lowerAscii
    (fun _ => "{}") "entry:test" publicContract publicFacts (factIds publicFacts) []
    publicFact.entryIdValid public_facts_identified cites
  obtain ⟨fact, ⟨member, -⟩, supports, cited⟩ := represented.context .unauthenticated
    ⟨publicFact, ⟨.head _, rfl, .head _⟩, by decide⟩
  rcases List.mem_cons.mp member with rfl | gate
  · exact ⟨decision, returned, cited⟩
  · rw [List.mem_singleton.mp gate] at supports
    exact absurd supports (by decide)

/-- A complete fact of the entry outside the slice gives no evidence. -/
theorem outside_fact_unrepresented :
    ¬ ∀ (entryId : String) (contract : AuthContract) (facts : List EntrySecurityFact)
        (sliceFactIds : List String), validId entryId "entry:" = true →
      (∀ id ∈ contract.evidenceIds, id ∈ sliceFactIds) →
      ∃ decision, verifyAuthContract Text.lowerAscii (fun _ => "{}") entryId contract facts
          sliceFactIds [] = .ok decision ∧
        ∀ context, (∃ fact ∈ facts, fact.entryId = entryId ∧ supportedContext fact = some context) →
          ∃ fact ∈ facts, supportedContext fact = some context ∧
            fact.factId ∈ decision.evidenceIds := by
  intro represents
  obtain ⟨decision, returned, cited⟩ := represents "entry:test" unsupportedContract [publicFact] []
    publicFact.entryIdValid nofun
  obtain ⟨built, again, evidence⟩ := decision_built Text.lowerAscii (fun _ => "{}") "entry:test"
    unsupportedContract [publicFact] [] [] publicFact.entryIdValid rfl
  have same := Except.ok.inj (returned.symm.trans again)
  obtain ⟨fact, -, -, member⟩ := cited .unauthenticated
    ⟨publicFact, List.mem_singleton_self _, rfl, by decide⟩
  have none_ : sliceFacts "entry:test" [publicFact] [] = [] := by
    simp [sliceFacts]
  rw [same, evidence] at member
  rcases evidence_source _ _ _ _ _ member with gap | ⟨context, own⟩ | ⟨status, own⟩ | own
  · simp [authCoverageGaps, none_, factIds] at gap
  · simp [supporting, none_, factIds] at own
  · simp [deploymentEvidence, deploymentFacts, none_, factIds] at own
  · cases own

end DosWeb.Reachability
